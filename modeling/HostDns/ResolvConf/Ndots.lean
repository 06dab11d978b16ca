import HostDns.Text.Blank
import HostDns.Text.Numeral

/-!
The `ndots` threshold: how many dots a name needs before it is first tried as it stands.

It is set by tokens `ndots:N` on lines that start with `options` or `search`, and after those by the
tokens of an options variable. The last such token wins.
-/

namespace HostDns.ResolvConf

/-- The threshold where nothing sets it, and where a token sets it to something else than a number
from zero up. -/
def defaultNdots : Nat := 1

/-- The largest threshold; larger numbers are capped to it. -/
def maxNdots : Nat := 15

/-- What a token sets the threshold to, if it is about the threshold. -/
def ndotsToken? (token : List Char) : Option Nat :=
  let mark := "ndots:".toList
  if mark.isPrefixOf token then
    some (match Text.integer? 0x8000000000000000 (token.drop mark.length) with
      | some (.ofNat n) => min n maxNdots
      | _ => defaultNdots)
  else none

/-- The tokens of a line that can set the threshold. -/
def optionTokens (line : List Char) : List (List Char) :=
  match Text.tokens line with
  | [] => []
  | first :: rest =>
    if first = "options".toList ∨ first = "search".toList then rest else []

/-- The threshold that a text and an options variable set. -/
def ndots (text : String) (options? : Option String) : Nat :=
  let tokens := (Text.lines text.toList).flatMap optionTokens ++
    (options?.map fun options => Text.tokens options.toList).getD []
  (tokens.filterMap ndotsToken?).getLast?.getD defaultNdots

/-- No token sets a threshold above the largest one. -/
theorem le_maxNdots_of_ndotsToken? {token : List Char} {n : Nat} (h : ndotsToken? token = some n) :
    n ≤ maxNdots := by
  rw [ndotsToken?] at h
  split at h
  · cases h
    split
    · exact Nat.min_le_right _ _
    · decide
  · cases h

theorem ndots_le_maxNdots (text : String) (options? : Option String) :
    ndots text options? ≤ maxNdots := by
  rw [ndots]
  generalize (Text.lines text.toList).flatMap optionTokens ++ _ = tokens
  rcases hlast : (tokens.filterMap ndotsToken?).getLast? with _ | n
  · decide
  · obtain ⟨token, _, htoken⟩ := List.mem_filterMap.mp (List.mem_of_getLast? hlast)
    exact le_maxNdots_of_ndotsToken? htoken

end HostDns.ResolvConf
