import HostDns.Pattern.NamedSet

/-!
Patterns of text and whether they match somewhere in a text.

A pattern is followed by the set of places that can be reached: from the places where it may start,
`ends` gives all places where it may end. That set is finite, so repetition without bound is a search
that stops as soon as no new place turns up.
-/

namespace HostDns

namespace Pattern

/-- A condition on a place in a text. With `ascii` only ASCII characters count as parts of words. -/
inductive Look where
  | textStart
  | textEnd
  | lineStart
  | lineEnd
  /-- A line starts after a line feed or a carriage return, but not between the two. -/
  | lineStartCrlf
  | lineEndCrlf
  | wordBoundary (ascii : Bool)
  | notWordBoundary (ascii : Bool)
  | wordStart (ascii : Bool)
  | wordEnd (ascii : Bool)
  | wordStartHalf (ascii : Bool)
  | wordEndHalf (ascii : Bool)
  deriving DecidableEq, Repr

end Pattern

open Pattern in
/-- A pattern of text. -/
inductive Pattern where
  | empty
  /-- One character of a set, which is written for ASCII alone if `ascii`. -/
  | oneOf (ascii : Bool) (s : CharSet)
  | look (l : Look)
  | seq (p q : Pattern)
  | alt (p q : Pattern)
  /-- So many repetitions at least, and at most so many if there is a bound; as many as possible are
  preferred if `greedy`. -/
  | times (p : Pattern) (greedy : Bool) (min : Nat) (max : Option Nat)
  | group (captures : Bool) (p : Pattern)
  deriving Repr, Inhabited

namespace Pattern

/-- Whether a code point is part of a word. -/
def isWordChar (ascii : Bool) (n : Nat) : Bool := (LetterClass.word.set ascii).contains n

namespace Look

/-- Whether a condition holds between the character before a place and the one after it. -/
def holds (l : Look) (before after : Option Nat) : Bool :=
  let word (ascii : Bool) (c : Option Nat) : Bool := c.any (isWordChar ascii)
  match l with
  | .textStart => before.isNone
  | .textEnd => after.isNone
  | .lineStart => before.isNone || before = some 10
  | .lineEnd => after.isNone || after = some 10
  | .lineStartCrlf => before.isNone || before = some 10 || (before = some 13 && after ≠ some 10)
  | .lineEndCrlf => after.isNone || after = some 13 || (after = some 10 && before ≠ some 13)
  | .wordBoundary ascii => word ascii before != word ascii after
  | .notWordBoundary ascii => word ascii before == word ascii after
  | .wordStart ascii => !word ascii before && word ascii after
  | .wordEnd ascii => word ascii before && !word ascii after
  | .wordStartHalf ascii => !word ascii before
  | .wordEndHalf ascii => !word ascii after

end Look

/-- A text as the code points of its characters. -/
abbrev CodePoints := Array Nat

/-- The places of two ascending lists, in ascending order and each once. -/
def mergePlaces : List Nat → List Nat → List Nat
  | [], qs => qs
  | ps, [] => ps
  | p :: ps, q :: qs =>
    if p < q then p :: mergePlaces ps (q :: qs)
    else if q < p then q :: mergePlaces (p :: ps) qs
    else p :: mergePlaces ps qs
termination_by ps qs => ps.length + qs.length

/-- The places that so many steps lead to. -/
def exactly (step : List Nat → List Nat) : Nat → List Nat → List Nat
  | 0, places => places
  | n + 1, places => if places.isEmpty then [] else exactly step n (step places)

/-- The places that at most so many steps lead to. `seen` holds those found before, and `fresh` those
that the last step found. -/
def atMost (step : List Nat → List Nat) : Nat → (seen fresh : List Nat) → List Nat
  | 0, seen, _ => seen
  | n + 1, seen, fresh =>
    let new := (step fresh).filter fun p => !seen.contains p
    if new.isEmpty then seen else atMost step n (mergePlaces seen new) new

/-- The places where a pattern may end that starts at one of some places. -/
def ends (text : CodePoints) : Pattern → List Nat → List Nat
  | .empty, places => places
  | .oneOf _ s, places =>
    (places.filter fun p => (text[p]?).any s.contains).map (· + 1)
  | .look l, places =>
    places.filter fun p => l.holds (if p = 0 then none else text[p - 1]?) text[p]?
  | .seq p q, places => q.ends text (p.ends text places)
  | .alt p q, places => mergePlaces (p.ends text places) (q.ends text places)
  | .times p _ min max, places =>
    let least := exactly (p.ends text) min places
    let more := match max with
      | some n => Nat.min (n - min) (text.size + 1)
      | none => text.size + 1
    atMost (p.ends text) more least least
  | .group _ p, places => p.ends text places

/-- Whether a pattern matches somewhere in a text. -/
def matchesIn (p : Pattern) (text : String) : Bool :=
  let points : CodePoints := (text.toList.map Char.toNat).toArray
  !(p.ends points (List.range (points.size + 1))).isEmpty

/-- The sequence of patterns. -/
def seqs : List Pattern → Pattern
  | [] => .empty
  | [p] => p
  | p :: rest => .seq p (seqs rest)

/-- The choice between patterns. -/
def alts : List Pattern → Pattern
  | [] => .empty
  | [p] => p
  | p :: rest => .alt p (alts rest)

end Pattern

end HostDns
