import HostDns.Pattern.Bracket
import HostDns.Pattern.Group
import HostDns.Pattern.Machine

/-!
Reading patterns.

With every part goes its nesting, which is limited, and so is the size of the machine for the whole.
Texts that are no pattern are refused for one of the reasons of `PatternError`.
-/

namespace HostDns.Pattern

open Read

/-- A part of a sequence: flags, which match nothing and cannot be repeated, or a pattern with its
nesting. -/
inductive Part where
  | flags
  | pattern (p : Pattern) (depth : Nat)

/-- The pattern of an atom under the flags in force. -/
def atomPattern (a : Atom) : Read Pattern := do
  let f ← flags
  match a with
  | .char c byte =>
    if f.ascii ∧ byte ∧ 0x80 ≤ c.toNat then refuse .notUnicode
    else if f.ignoreCase then return .oneOf f.ascii (.anyCase f.ascii (.single c))
    else return .oneOf f.ascii (.single c)
  | .set s => return .oneOf f.ascii s
  | .look l => return .look l
  | .dot =>
    if f.ascii then refuse .notUnicode
    else if f.dotAll then return .oneOf false CharSet.empty.complement
    else if f.crlf then return .oneOf false (CharSet.complement ⟨[(10, 10), (13, 13)]⟩)
    else return .oneOf false (CharSet.complement ⟨[(10, 10)]⟩)
  | .caret =>
    return .look (if f.multiLine then if f.crlf then .lineStartCrlf else .lineStart else .textStart)
  | .dollar =>
    return .look (if f.multiLine then if f.crlf then .lineEndCrlf else .lineEnd else .textEnd)

/-- Skips blanks, whatever the flags. -/
def skipSpaces : Read Unit :=
  modify fun r => { r with rest := r.rest.dropWhile Text.isBlank }

/-- A decimal number with blanks around it. -/
def readDecimal : Read (Option Nat) := do
  skipSpaces
  let digits ← takeRun Char.isDigit
  skipSpaces
  match Text.digits? digits with
  | none => return none
  | some n => if n < 0x100000000 then return some n else refuse .invalidRepetition

/-- How often a repetition in braces asks for. -/
def readCounts : Read (Nat × Option Nat) := do
  advance
  let least ← readDecimal
  match ← peek with
  | none => refuse .unclosedRepetition
  | some ',' =>
    advance
    match ← peek with
    | none => refuse .unclosedRepetition
    | some '\x7d' =>
      match least with
      | some n => return (n, none)
      | none => refuse .invalidRepetition
    | some _ =>
      match least, ← readDecimal with
      | some n, some m => return (n, some m)
      | _, _ => refuse .invalidRepetition
  | some _ =>
    match least with
    | some n => return (n, some n)
    | none => refuse .invalidRepetition

/-- The counts of a repetition from its operator, and whether it is followed by a question mark. -/
def readRepetition (operator : Char) : Read (Nat × Option Nat × Bool) := do
  let (least, most) ← match operator with
    | '?' => do skip; pure (0, some 1)
    | '*' => do skip; pure (0, none)
    | '+' => do skip; pure (1, none)
    | _ => do
      let (least, most) ← readCounts
      if (← peek) ≠ some '\x7d' then refuse .unclosedRepetition
      advance
      if most.any (· < least) then refuse .invalidRepetition
      pure (least, most)
  return (least, most, ← skipWord "?")

/-- The sequence of parts, the last of which comes first, and its nesting. -/
def sequence (parts : List Part) : Pattern × Nat :=
  let patterns := parts.reverse.filterMap fun
    | .flags => none
    | .pattern p _ => some p
  let depth := parts.foldl (fun d part => match part with
    | .flags => d
    | .pattern _ n => Nat.max d n) 0
  (.seqs patterns, if parts.length ≤ 1 then depth else depth + 1)

/-- The choice between sequences, the last of which comes first, and its nesting. -/
def choice (ways : List (Pattern × Nat)) : Pattern × Nat :=
  let depth := ways.foldl (fun d way => Nat.max d way.2) 0
  (.alts (ways.reverse.map (·.1)), if ways.length ≤ 1 then depth else depth + 1)

/-- The content of a group, or a whole pattern: the ways so far and the parts of the one being read,
both from the last to the first, and then what is left up to a closing parenthesis or the end. -/
def readContent : Nat → List (Pattern × Nat) → List Part → Read (Pattern × Nat)
  | 0, _, _ => refuse .nestedTooDeep
  | fuel + 1, ways, parts => do
    skipBlanks
    match ← peek with
    | none => return choice (sequence parts :: ways)
    | some ')' => return choice (sequence parts :: ways)
    | some '|' =>
      skip
      readContent fuel (sequence parts :: ways) []
    | some '(' =>
      let outer ← flags
      match ← readOpening with
      | .flags inner =>
        setFlags inner
        readContent fuel ways (.flags :: parts)
      | .group captures inner =>
        setFlags inner
        let (p, depth) ← readContent fuel [] []
        if (← peek) ≠ some ')' then refuse .unclosedGroup
        setFlags outer
        skip
        readContent fuel ways (.pattern (.group captures p) (depth + 1) :: parts)
    | some '[' =>
      let (s, depth) ← readClass (2 * (← get).rest.length + 2)
      readContent fuel ways (.pattern (.oneOf (← flags).ascii s) depth :: parts)
    | some c =>
      if c = '?' ∨ c = '*' ∨ c = '+' ∨ c = '\x7b' then
        match parts with
        | .pattern p depth :: before =>
          let (least, most, marked) ← readRepetition c
          let greedy := marked == (← flags).lazy
          readContent fuel ways (.pattern (.times p greedy least most) (depth + 1) :: before)
        | _ => refuse .nothingToRepeat
      else
        let atom ← match c with
          | '\\' => readEscape
          | '.' => do skip; pure .dot
          | '^' => do skip; pure .caret
          | '$' => do skip; pure .dollar
          | c => do skip; pure (.char c false)
        readContent fuel ways (.pattern (← atomPattern atom) 0 :: parts)

/-- How deep the parts of a pattern can be nested. -/
def maxDepth : Nat := 250

/-- The pattern that a text spells. -/
def ofString (text : String) : Except PatternError Pattern := do
  let chars := text.toList
  let ((p, depth), r) ← StateT.run (readContent (2 * chars.length + 2) [] []) ⟨chars, {}, []⟩
  if !r.rest.isEmpty then throw .unopenedGroup
  if depth > maxDepth then throw .nestedTooDeep
  if !Machine.fits p then throw .tooLarge
  return p

end HostDns.Pattern
