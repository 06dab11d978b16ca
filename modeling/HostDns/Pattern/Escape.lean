import HostDns.Pattern.Basic
import HostDns.Pattern.Cursor
import HostDns.Text.Numeral

/-!
What a backslash announces in a pattern: characters, sets of characters and conditions on a place.
-/

namespace HostDns.Pattern

open Read

/-- The character with a code point that hexadecimal digits give. -/
def charOfHex (digits : List Char) : Read Char := do
  let n := Text.hexValue digits
  if n < 0xD800 ∨ (0xDFFF < n ∧ n < 0x110000) then return Char.ofNat n else refuse .invalidEscape

/-- Whether a character is a hexadecimal digit. -/
def isHex (c : Char) : Bool := (Text.hexDigit? c).isSome

/-- A character given by so many hexadecimal digits, or by any number of them in braces. The answer
tells whether exactly two digits gave it. -/
def readHex (width : Nat) : Read (Char × Bool) := do
  advance
  match ← peek with
  | none => refuse .invalidEscape
  | some '\x7b' =>
    advance
    let digits ← takeRun isHex
    if (← peek) ≠ some '\x7d' ∨ digits.isEmpty then refuse .invalidEscape
    advance
    return (← charOfHex digits, false)
  | some _ =>
    let rec go : Nat → Read (List Char)
      | 0 => return []
      | n + 1 => do
        match ← peek with
        | some c => if isHex c then do advance; return c :: (← go n) else refuse .invalidEscape
        | none => refuse .invalidEscape
    return (← charOfHex (← go width), width = 2)

/-- The name and the value in a text with one of the separators `!=`, `:` and `=` between them, and
whether it is the first, which negates. The first of these forms that occurs counts. -/
def splitProperty (text : List Char) : Option (List Char × Bool × List Char) :=
  let rec atBang : List Char → Option (List Char × Bool × List Char)
    | '!' :: '=' :: rest => some ([], true, rest)
    | c :: rest => (atBang rest).map fun (name, value) => (c :: name, value)
    | [] => none
  (atBang text).or <|
    ((Text.splitFirst ':' text).or (Text.splitFirst '=' text)).map fun (name, value) =>
      (name, false, value)

/-- A set in the case that the flags ask for. -/
def folded (s : CharSet) : Read CharSet := do
  let f ← flags
  return if f.ignoreCase then .anyCase f.ascii s else s

/-- The complement of a set, which needs Unicode. -/
def negated (negate : Bool) (s : CharSet) : Read CharSet := do
  if !negate then return s
  else if (← flags).ascii then refuse .notUnicode
  else return .complement s

/-- The set of a property, after the letter that announces one. -/
def readProperty (negate : Bool) : Read CharSet := do
  advance
  let (unequal, found) ← match ← peek with
    | none => refuse .invalidEscape
    | some '\x7b' =>
      advance
      let text ← takeRun (· ≠ '\x7d')
      if (← peek) ≠ some '\x7d' then refuse .invalidEscape
      skip
      match splitProperty text with
      | some (name, unequal, value) =>
        pure (unequal, valued? (String.ofList name) (String.ofList value))
      | none => pure (false, named? (String.ofList text))
    | some '\\' => refuse .invalidEscape
    | some c =>
      advance
      pure (false, named? (String.singleton c))
  if (← flags).ascii then refuse .notUnicode
  match found with
  | none => refuse .unknownProperty
  | some s => negated (negate != unequal) (← folded s)

/-- The characters that mean something in patterns. -/
def metaChars : List Char :=
  ['\\', '.', '+', '*', '?', '(', ')', '|', '[', ']', '\x7b', '\x7d', '^', '$', '#', '&', '-', '~']

/-- Whether a character stands for itself after a backslash: those of ASCII that are no letters, digits
or angle brackets. -/
def escapesToItself (c : Char) : Bool :=
  metaChars.contains c || (c.toNat < 0x80 && !c.isAlphanum && c ≠ '<' && c ≠ '>')

/-- What stands for a single thing in a pattern. -/
inductive Atom where
  /-- A character; `byte` if it was given by two hexadecimal digits. -/
  | char (c : Char) (byte : Bool)
  | set (s : CharSet)
  | look (l : Look)
  | dot
  | caret
  | dollar

/-- The words in braces after a boundary, if such words are there. -/
def readBoundaryName : Read (Option String) := do
  let before ← get
  advance
  let isNameChar (c : Char) : Bool := c.isAlpha || c = '-'
  match ← peek with
  | none => refuse .unclosedRepetition
  | some c =>
    if isNameChar c then
      let name ← takeRun isNameChar
      if (← peek) ≠ some '\x7d' then refuse .invalidEscape
      skip
      return some (String.ofList name)
    else
      set before
      return none

/-- What a backslash and the text behind it stand for. -/
def readEscape : Read Atom := do
  skip
  let ascii := (← flags).ascii
  match ← peek with
  | none => refuse .invalidEscape
  | some c =>
    if c.isDigit then refuse .backReference
    else if c = 'x' then (fun (c, byte) => .char c byte) <$> readHex 2
    else if c = 'u' then (fun (c, _) => .char c false) <$> readHex 4
    else if c = 'U' then (fun (c, _) => .char c false) <$> readHex 8
    else if c = 'p' ∨ c = 'P' then .set <$> readProperty (c = 'P')
    else do
      skip
      match c with
      | 'd' => return .set (LetterClass.digit.set ascii)
      | 's' => return .set (LetterClass.space.set ascii)
      | 'w' => return .set (LetterClass.word.set ascii)
      | 'D' => .set <$> negated true (LetterClass.digit.set ascii)
      | 'S' => .set <$> negated true (LetterClass.space.set ascii)
      | 'W' => .set <$> negated true (LetterClass.word.set ascii)
      | 'a' => return .char '\x07' false
      | 'f' => return .char '\x0c' false
      | 't' => return .char '\t' false
      | 'n' => return .char '\n' false
      | 'r' => return .char '\r' false
      | 'v' => return .char '\x0b' false
      | 'A' => return .look .textStart
      | 'z' => return .look .textEnd
      | 'B' => return .look (.notWordBoundary ascii)
      | '<' => return .look (.wordStart ascii)
      | '>' => return .look (.wordEnd ascii)
      | 'b' =>
        if (← peek) = some '\x7b' then
          match ← readBoundaryName with
          | none => return .look (.wordBoundary ascii)
          | some "start" => return .look (.wordStart ascii)
          | some "end" => return .look (.wordEnd ascii)
          | some "start-half" => return .look (.wordStartHalf ascii)
          | some "end-half" => return .look (.wordEndHalf ascii)
          | some _ => refuse .invalidEscape
        else return .look (.wordBoundary ascii)
      | c => if escapesToItself c then return .char c false else refuse .invalidEscape

end HostDns.Pattern
