import HostDns.Text.Numeral

/-!
Sets of code points as ranges, and the compact text that tables of them are written in.
-/

namespace HostDns.Unicode

/-- Ranges of code points with both ends, in ascending order. -/
abbrev Ranges := Array (Nat × Nat)

/-- The words of lines, which blanks separate. -/
def words (lines : List String) : List String :=
  lines.flatMap fun line => line.splitOn " "

namespace Ranges

/-- Whether a code point is in a range. -/
def contains (ranges : Ranges) (n : Nat) : Bool := ranges.any fun (low, high) => low ≤ n && n ≤ high

/-- Reads a word such as `1a+5`: how many code points are left out, and how many follow that are in. -/
def gapAndCount (word : String) : Nat × Nat :=
  match word.splitOn "+" with
  | [gap, count] => (Text.hexValue gap.toList, Text.hexValue count.toList)
  | _ => (0, 0)

/-- The ranges that the words of lines describe. -/
def ofLines (lines : List String) : Ranges :=
  ((words lines).foldl (fun (ranges, start) word =>
    let (gap, count) := gapAndCount word
    (ranges.push (start + gap, start + gap + count - 1), start + gap + count))
    ((#[], 0) : Ranges × Nat)).1

/-- The ranges that a table gives under a name. Its rows are names with the lines of their ranges. -/
def named? (table : List (List String × List String)) (name : String) : Option Ranges :=
  (table.find? fun (names, _) => names.contains name).map fun (_, lines) => ofLines lines

end Ranges

end HostDns.Unicode
