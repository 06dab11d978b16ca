import HostDns.Unicode.Folding

/-!
Sets of characters.

A set is written as ranges of code points in ascending order that neither overlap nor touch, and whose
ends are characters. Sets that are put together from others are brought into this form.
-/

namespace HostDns.Pattern

/-- A set of characters, as ranges with both ends. -/
structure CharSet where
  ranges : List (Nat × Nat)
  deriving DecidableEq, Repr, Inhabited

namespace CharSet

/-- The greatest code point. -/
def lastPoint : Nat := 0x10FFFF

/-- The character after one. -/
def after (n : Nat) : Nat := if n = 0xD7FF then 0xE000 else n + 1

/-- The character before one. -/
def before (n : Nat) : Nat := if n = 0xE000 then 0xD7FF else n - 1

/-- The part of a range whose ends are characters: no surrogate is one. -/
def clip (range : Nat × Nat) : Option (Nat × Nat) :=
  let low := if 0xD800 ≤ range.1 ∧ range.1 < 0xE000 then 0xE000 else range.1
  let high := if 0xD800 ≤ range.2 ∧ range.2 < 0xE000 then 0xD7FF else range.2
  if low ≤ high then some (low, high) else none

/-- Joins the ranges of a sorted list that overlap or touch. -/
def join : List (Nat × Nat) → List (Nat × Nat)
  | [] => []
  | [range] => [range]
  | (low, high) :: (low', high') :: rest =>
    if low' ≤ high + 1 then join ((low, Nat.max high high') :: rest)
    else (low, high) :: join ((low', high') :: rest)
termination_by ranges => ranges.length

/-- The set of the characters in some ranges. -/
def ofRanges (ranges : List (Nat × Nat)) : CharSet :=
  ⟨join ((ranges.filterMap clip).mergeSort fun a b => a.1 < b.1 || (a.1 == b.1 && a.2 ≤ b.2))⟩

/-- No character. -/
def empty : CharSet := ⟨[]⟩

/-- The characters between two, with both. -/
def range (low high : Nat) : CharSet := ofRanges [(low, high)]

/-- The set of one character. -/
def single (c : Char) : CharSet := ⟨[(c.toNat, c.toNat)]⟩

/-- Whether a code point is in a set. -/
def contains (s : CharSet) (n : Nat) : Bool := s.ranges.any fun (low, high) => low ≤ n && n ≤ high

/-- The union of sets. -/
def unions (sets : List CharSet) : CharSet := ofRanges (sets.flatMap ranges)

/-- What two lists of ranges have in common. -/
def common : List (Nat × Nat) → List (Nat × Nat) → List (Nat × Nat)
  | [], _ => []
  | _, [] => []
  | (low, high) :: rest, (low', high') :: rest' =>
    let more :=
      if high < high' then common rest ((low', high') :: rest')
      else common ((low, high) :: rest) rest'
    let least := Nat.max low low'
    let greatest := Nat.min high high'
    if least ≤ greatest then (least, greatest) :: more else more
termination_by ranges ranges' => ranges.length + ranges'.length

/-- The characters from one on that no range of a list covers. -/
def gaps (start : Nat) : List (Nat × Nat) → List (Nat × Nat)
  | [] => if start ≤ lastPoint then [(start, lastPoint)] else []
  | (low, high) :: rest =>
    if start < low then (start, before low) :: gaps (after high) rest else gaps (after high) rest

/-- The gaps behind a range that others follow. Ranges that meet across the surrogates have no gap
between them, and the range from the last character before these to the first one behind them stands
for it. -/
def gapsBehind (high : Nat) : List (Nat × Nat) → List (Nat × Nat)
  | [] => if high < lastPoint then [(after high, lastPoint)] else []
  | (low, high') :: rest =>
    let start := after high
    let stop := before low
    (Nat.min start stop, Nat.max start stop) :: gapsBehind high' rest

/-- The characters that are not in a set. -/
def complement (s : CharSet) : CharSet :=
  match s.ranges with
  | [] => ⟨[(0, lastPoint)]⟩
  | (low, high) :: rest =>
    if 0 < low then ⟨(0, before low) :: gapsBehind high rest⟩ else ⟨gapsBehind high rest⟩

/-- The characters of both sets. -/
def inter (s t : CharSet) : CharSet := ⟨common s.ranges t.ranges⟩

/-- The characters of a set that are not in another. -/
def diff (s t : CharSet) : CharSet := ⟨common s.ranges (gaps 0 t.ranges)⟩

/-- The characters of one of two sets that are not in the other. -/
def symmDiff (s t : CharSet) : CharSet := (unions [s, t]).diff (s.inter t)

/-- The classes of characters that differ only in case. Those of ASCII are the letters. -/
def caseClasses (ascii : Bool) : List (List Nat) :=
  if ascii then (List.range 26).map fun i => [0x41 + i, 0x61 + i] else Unicode.caseClasses

/-- The characters that are in a set in some case; only letters of ASCII have cases if `ascii`. -/
def anyCase (ascii : Bool) (s : CharSet) : CharSet :=
  let touched := (caseClasses ascii).filter fun members => members.any s.contains
  ofRanges (s.ranges ++ touched.flatten.map fun n => (n, n))

/-- Whether all characters of a set are ASCII. -/
def isAscii (s : CharSet) : Bool := s.ranges.all fun (_, high) => high < 0x80

end CharSet

end HostDns.Pattern
