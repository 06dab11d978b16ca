import HostDns.Pattern.Branches
import HostDns.Pattern.Normal
import Std.Data.HashMap

/-!
How large the machine for a pattern is.

A machine takes in a text byte by byte, forward or backward. It is put together state by state, and a
pattern is refused if one of its two machines grows beyond a limit. Sets beyond ASCII make up most of a
machine, so states of these are shared as far as two tables of a fixed number of places remember them;
which states are forgotten depends on the numbers of the states, so these are followed.
-/

namespace HostDns.Pattern

/-- A place in a table of so many places, for numbers that stand for what is remembered there. -/
def tablePlace (size : UInt64) (numbers : List UInt64) : UInt64 :=
  numbers.foldl (fun hash n => (hash ^^^ n) * 0x100000001B3) 0xCBF29CE484222325 % size

/-- What a state leads to for a range of bytes. -/
structure Link where
  low : UInt8
  high : UInt8
  next : Nat
  deriving DecidableEq, Repr, Inhabited

/-- The numbers that stand for a link in a table. -/
def Link.numbers (l : Link) : List UInt64 := [l.low.toUInt64, l.high.toUInt64, l.next.toUInt64]

/-- A state that is not finished: its links, the last of which comes first, and the range of one that
leads to another unfinished state. -/
structure OpenState where
  links : List Link
  range : Option (UInt8 × UInt8)
  deriving Repr, Inhabited

/-- The state whose open link leads to a given one. -/
def OpenState.close (s : OpenState) (next : Nat) : OpenState :=
  match s.range with
  | some (low, high) => ⟨⟨low, high, next⟩ :: s.links, none⟩
  | none => s

/-- The states for a set on the way forward: the machine, the state behind the set, the states that the
table remembers, and the unfinished ones, the last of which comes first. -/
structure ForwardSet where
  size : Size
  target : Nat
  table : Std.HashMap UInt64 (List Link × Nat)
  unfinished : List OpenState

namespace ForwardSet

/-- Finishes a state with these links, unless one like it is remembered. Gives its number. -/
def finish (f : ForwardSet) (links : List Link) : Option (Nat × ForwardSet) :=
  let links := links.reverse
  let place := tablePlace 10000 (links.flatMap Link.numbers)
  let addNew : Option (Nat × ForwardSet) := do
    let id := f.size.states
    let size ← f.size.grow (.byRanges links.length)
    return (id, { f with size, table := f.table.insert place (links, id) })
  match f.table[place]? with
  | some (known, id) => if known = links then some (id, f) else addNew
  | none => addNew

/-- Finishes so many of the unfinished states, the last first, and closes the one before them. `next` is
where the last one leads. -/
def finishLast (f : ForwardSet) : (count next : Nat) → Option ForwardSet
  | count, next =>
    let rec go : List OpenState → (count next : Nat) → ForwardSet → Option ForwardSet
      | [], _, _, f => some f
      | s :: rest, 0, next, f => some { f with unfinished := s.close next :: rest }
      | s :: rest, count + 1, next, f => do
        let (next, f) ← f.finish (s.close next).links
        go rest count next f
    go f.unfinished count next f

/-- How many unfinished states, from the first on, wait for the same ranges. -/
def sharedRanges : List OpenState → List (UInt8 × UInt8) → Nat
  | s :: rest, range :: ranges => if s.range = some range then sharedRanges rest ranges + 1 else 0
  | _, _ => 0

/-- Adds ranges of bytes, which come in ascending order. -/
def add (f : ForwardSet) (ranges : List (UInt8 × UInt8)) : Option ForwardSet := do
  let shared := sharedRanges f.unfinished.reverse ranges
  let f ← f.finishLast (f.unfinished.length - (shared + 1)) f.target
  match ranges.drop shared, f.unfinished with
  | range :: behind, s :: rest =>
    let opened := behind.map fun range => (⟨[], some range⟩ : OpenState)
    return { f with unfinished := opened.reverse ++ { s with range := some range } :: rest }
  | _, _ => return f

/-- The machine with the states for a set. -/
def build (ranges : List (List (UInt8 × UInt8))) (m : Size) : Option Size := do
  let target := m.states
  let f ← ranges.foldlM add ⟨← m.grow .plain, target, {}, [⟨[], none⟩]⟩
  let f ← f.finishLast (f.unfinished.length - 1) f.target
  match f.unfinished with
  | s :: _ => return (← f.finish s.links).2.size
  | [] => return f.size

end ForwardSet

/-- The states for a set on the way backward: the machine, and the states that the table remembers. -/
structure BackwardSet where
  size : Size
  table : Std.HashMap UInt64 (Link × Nat)

namespace BackwardSet

/-- The state that leads to one for a range of bytes, a new one unless it is remembered. -/
def link (b : BackwardSet) (next : Nat) (range : UInt8 × UInt8) : Option (Nat × BackwardSet) :=
  let link : Link := ⟨range.1, range.2, next⟩
  let place := tablePlace 1000 [next.toUInt64, range.1.toUInt64, range.2.toUInt64]
  let addNew : Option (Nat × BackwardSet) := do
    let id := b.size.states
    return (id, ⟨← b.size.grow .plain, b.table.insert place (link, id)⟩)
  match b.table[place]? with
  | some (known, id) => if known = link then some (id, b) else addNew
  | none => addNew

/-- Adds ranges of bytes, from the first byte to the last, in front of the state behind the set. -/
def add (target : Nat) (b : BackwardSet) (ranges : List (UInt8 × UInt8)) : Option BackwardSet := do
  let (_, b) ← ranges.foldlM (fun (next, b) range => link b next range) (target, b)
  return b

/-- The machine with the states for a set. -/
def build (ranges : List (List (UInt8 × UInt8))) (m : Size) : Option Size := do
  let m ← m.grow (.choice ranges.length)
  let target := m.states
  let b ← ranges.foldlM (add target) ⟨← m.grow .plain, {}⟩
  return b.size

end BackwardSet

/-- The bytes of the ways of a choice, if all are literals. -/
def Normal.words? (ways : List Normal) : Option (List (List UInt8)) :=
  ways.mapM fun way => match way with
    | .literal bytes => some bytes
    | _ => none

namespace Machine

/-- Adds the states for a set. -/
def addSet (backward : Bool) (s : CharSet) (m : Size) : Option Size :=
  if s.isAscii then m.grow (.plain + .byRanges s.ranges.length)
  else
    let ranges := s.ranges.flatMap fun (low, high) => Unicode.byteRanges low high
    if backward then BackwardSet.build ranges m else ForwardSet.build ranges m

/-- Adds the states for repetitions of what `step` adds. Without a bound, what can be empty takes more
states, so that the order of preference is kept. -/
def addTimes (step : Size → Option Size) (canBeEmpty : Bool) (min : Nat) :
    Option Nat → Size → Option Size
  | some max, m => do
    if min = 0 ∧ max = 1 then (← step (← m.grow (.choice 2))).grow .plain
    else
      let m ← if min = 0 then m.grow .plain else m.copies step min
      if min = max then return m
      (← m.grow .plain).copies (fun m => do step (← m.grow (.choice 2))) (max - min)
  | none, m => do
    if min = 0 then
      if canBeEmpty then (← step m).grow (.choice 2 + .choice 2 + .plain)
      else step (← m.grow (.choice 2))
    else (← m.copies step min).grow (.choice 2)

/-- Adds the states for words that are looked for together. -/
def addWords (backward : Bool) (words : List (List UInt8)) (m : Size) : Option Size :=
  let branches := Branches.ofWords (if backward then words.map List.reverse else words)
  m.grow (.plain + .choice 0 + branches.size 0)

mutual

/-- Adds the states for a pattern. -/
def add (backward : Bool) : Normal → Size → Option Size
  | .empty, m => m.grow .plain
  | .literal bytes, m => m.grow ⟨bytes.length, 0⟩
  | .oneOf _ s, m => addSet backward s m
  | .look _, m => m.grow .plain
  | .times n _ min max, m =>
    addTimes (add backward n) (n.extent.least.all (· = 0)) min max m
  | .capture n, m =>
    if backward then add backward n m
    else do (← add backward n (← m.grow .plain)).grow .plain
  | .seq parts, m => if backward then addBackward parts m else addForward parts m
  | .alt ways, m =>
    match Normal.words? ways with
    | some words => addWords backward words m
    | none => addWays backward ways.length 0 ways m

/-- Adds the states for a sequence, from the first part to the last. -/
def addForward : List Normal → Size → Option Size
  | [], m => some m
  | n :: rest, m => do addForward rest (← add false n m)

/-- Adds the states for a sequence, from the last part to the first. -/
def addBackward : List Normal → Size → Option Size
  | [], m => some m
  | n :: rest, m => do add true n (← addBackward rest m)

/-- Adds the states for the ways of a choice, of which so many are done. The state that chooses and the
one behind the choice come after the first two. -/
def addWays (backward : Bool) (count done : Nat) : List Normal → Size → Option Size
  | [], m => some m
  | n :: rest, m => do
    let m ← add backward n m
    let m ← if done = 1 then m.grow (.choice count + .plain) else some m
    addWays backward count (done + 1) rest m

end

/-- The size of the machine for a pattern, if it is within the limit. A machine that can start anywhere
skips bytes at first, and a forward one notes where a match starts and ends. -/
def size (backward : Bool) (n : Normal) : Option Size := do
  let anchored := if backward then n.extent.atEnd else n.extent.atStart
  let start : Size := if anchored then .plain else .choice 2 + .plain + .byRanges 1
  let m ← add backward (if backward then n else .capture n) (← Size.none.grow start)
  m.grow .plain

/-- Whether both machines for a pattern are within the limit. -/
def fits (p : Pattern) : Bool :=
  let n := Normal.ofPattern p
  (size false n).isSome && (size true n).isSome

end Machine

end HostDns.Pattern
