import HostDns.Pattern.Basic
import HostDns.Text.Utf8
import HostDns.Unicode.ByteRanges

/-!
The form in which patterns are carried out.

Characters that follow each other become one literal, sequences and choices are flat, a choice between
single characters is a set, and what all ways of a choice begin with is drawn out of it.
-/

namespace HostDns.Pattern

/-- A pattern in the form in which it is carried out. -/
inductive Normal where
  | empty
  | literal (bytes : List UInt8)
  | oneOf (ascii : Bool) (s : CharSet)
  | look (l : Look)
  | times (n : Normal) (greedy : Bool) (min : Nat) (max : Option Nat)
  | capture (n : Normal)
  | seq (parts : List Normal)
  | alt (ways : List Normal)
  deriving Repr, Inhabited

/-- What is known of the texts that a pattern matches. -/
structure Extent where
  /-- The length of the shortest, if nothing in the pattern fails always. -/
  least : Option Nat
  /-- All are empty. -/
  widthless : Bool
  /-- The pattern matches at the start of the text only. -/
  atStart : Bool
  /-- The pattern matches at the end of the text only. -/
  atEnd : Bool
  /-- How many parts the pattern has. -/
  size : Nat

namespace Extent

/-- The extent of the empty pattern. -/
def none : Extent := ⟨some 0, true, false, false, 1⟩

/-- The extent of a character or more. -/
def wide (least : Option Nat) : Extent := ⟨least, false, false, false, 1⟩

/-- The extent of two patterns after each other. -/
def andThen (e f : Extent) : Extent where
  least := do return (← e.least) + (← f.least)
  widthless := e.widthless && f.widthless
  atStart := e.atStart || (e.widthless && f.atStart)
  atEnd := f.atEnd || (f.widthless && e.atEnd)
  size := e.size + f.size

/-- The extent of one of two patterns. -/
def orElse (e f : Extent) : Extent where
  least := do return Nat.min (← e.least) (← f.least)
  widthless := e.widthless && f.widthless
  atStart := e.atStart && f.atStart
  atEnd := e.atEnd && f.atEnd
  size := e.size + f.size

end Extent

namespace Normal

mutual

/-- The extent of a pattern. -/
def extent : Normal → Extent
  | .empty => .none
  | .literal bytes => .wide (some bytes.length)
  | .oneOf _ s => .wide (s.ranges.head?.map fun (low, _) => (Unicode.bytes low).length)
  | .look l => { Extent.none with atStart := l = .textStart, atEnd := l = .textEnd }
  | .times n _ min max =>
    let e := n.extent
    { least := e.least.map (· * min)
      widthless := e.widthless && max.isSome
      atStart := e.atStart && 0 < min
      atEnd := e.atEnd && 0 < min
      size := e.size + 1 }
  | .capture n =>
    let e := n.extent
    { e with size := e.size + 1 }
  | .seq parts => extentOfSeq parts
  | .alt ways => extentOfAlt ways

/-- The extent of a sequence. -/
def extentOfSeq : List Normal → Extent
  | [] => .none
  | n :: rest => n.extent.andThen (extentOfSeq rest)

/-- The extent of a choice. -/
def extentOfAlt : List Normal → Extent
  | [] => .wide none
  | [n] => n.extent
  | n :: rest => n.extent.orElse (extentOfAlt rest)

end

mutual

/-- Whether two patterns are written alike. Groups that capture never are, since each has a place of its
own for what it finds. -/
def alike : Normal → Normal → Bool
  | .empty, .empty => true
  | .literal a, .literal b => a == b
  | .oneOf a s, .oneOf b t => a == b && s == t
  | .look l, .look k => l == k
  | .times n a min max, .times n' b min' max' =>
    a == b && min == min' && max == max' && n.alike n'
  | .seq parts, .seq parts' => allAlike parts parts'
  | .alt ways, .alt ways' => allAlike ways ways'
  | _, _ => false

/-- Whether two lists of patterns are written alike. -/
def allAlike : List Normal → List Normal → Bool
  | [], [] => true
  | n :: rest, n' :: rest' => n.alike n' && allAlike rest rest'
  | _, _ => false

end

/-- What never matches. -/
def never : Normal := .oneOf true .empty

/-- One character of a set. -/
def ofSet (ascii : Bool) (s : CharSet) : Normal :=
  match s.ranges with
  | [] => never
  | [(low, high)] => if low = high then .literal (Unicode.bytes low) else .oneOf ascii s
  | _ => .oneOf ascii s

/-- Repetitions of a pattern. Those of the empty text beyond the first make no difference. -/
def repeated (n : Normal) (greedy : Bool) (min : Nat) (max : Option Nat) : Normal :=
  let (min, max) :=
    if n.extent.widthless then (Nat.min min 1, some (Nat.min (max.getD 1) 1)) else (min, max)
  if min = 0 ∧ max = some 0 then .empty
  else if min = 1 ∧ max = some 1 then n
  else .times n greedy min max

/-- The parts of a sequence. -/
def parts : Normal → List Normal
  | .empty => []
  | .seq parts => parts
  | n => [n]

/-- The ways of a choice. -/
def ways : Normal → List Normal
  | .alt ways => ways
  | n => [n]

/-- Puts a pattern before others, literals into one. -/
def glue (n : Normal) (rest : List Normal) : List Normal :=
  match n, rest with
  | .literal bytes, .literal more :: rest => .literal (bytes ++ more) :: rest
  | n, rest => n :: rest

/-- The sequence of patterns. -/
def sequence (patterns : List Normal) : Normal :=
  match (patterns.flatMap parts).foldr glue [] with
  | [] => .empty
  | [n] => n
  | patterns => .seq patterns

/-- The character that a pattern spells, if it is a single one. -/
def character? : Normal → Option Char
  | .literal bytes =>
    match Text.Utf8.decodeFrom none bytes with
    | [c] => some c
    | _ => none
  | _ => none

/-- The set that a pattern takes a character of. -/
def set? : Normal → Option CharSet
  | .oneOf _ s => some s
  | _ => none

/-- The set that a choice comes to if all of its ways are single characters, or all are sets. -/
def choiceSet? (ways : List Normal) : Option CharSet :=
  ((ways.mapM character?).map fun cs => CharSet.unions (cs.map .single)).or
    ((ways.mapM set?).map .unions)

/-- The patterns that two lists both begin with. -/
def sharedStart : List Normal → List Normal → List Normal
  | n :: rest, n' :: rest' => if n.alike n' then n :: sharedStart rest rest' else []
  | _, _ => []

/-- The parts that all ways of a choice begin with. Only sequences are looked into. -/
def commonParts : List Normal → List Normal
  | .seq parts :: rest =>
    rest.foldl (fun shared way => match way with
      | .seq parts => sharedStart shared parts
      | _ => []) parts
  | _ => []

/-- The choice between patterns. What is left of the ways without their common parts is a choice again;
`fuel` bounds how often that can happen. -/
def choiceFrom : (fuel : Nat) → List Normal → Normal
  | 0, patterns => .alt patterns
  | fuel + 1, patterns =>
    match patterns.flatMap ways with
    | [] => never
    | [n] => n
    | ways =>
      match choiceSet? ways with
      | some s => ofSet false s
      | none =>
        match commonParts ways with
        | [] => .alt ways
        | common =>
          let left := ways.map fun way => sequence (way.parts.drop common.length)
          sequence (common ++ [choiceFrom fuel left])

/-- The choice between patterns. Each of its parts can be drawn out once. -/
def choice : List Normal → Normal
  | [n] => n
  | patterns => choiceFrom (extentOfAlt patterns).size patterns

/-- Ways, each with its parts, as the parts of a sequence. -/
def partsOfWays : List (List Normal) → List Normal
  | [parts] => parts
  | ways => [choice (ways.map sequence)]

/-- The ways of a pattern, each with its parts. -/
def waysOfPattern : Pattern → List (List Normal)
  | .alt p q => waysOfPattern p ++ waysOfPattern q
  | .seq p q => [partsOfWays (waysOfPattern p) ++ partsOfWays (waysOfPattern q)]
  | .empty => [[]]
  | .oneOf ascii s => [[ofSet ascii s]]
  | .look l => [[.look l]]
  | .times p greedy min max => [[repeated (choice ((waysOfPattern p).map sequence)) greedy min max]]
  | .group captures p =>
    let n := choice ((waysOfPattern p).map sequence)
    [[if captures then .capture n else n]]

/-- The form in which a pattern is carried out. -/
def ofPattern (p : Pattern) : Normal := choice ((waysOfPattern p).map sequence)

end Normal

end HostDns.Pattern
