import HostDns.Adapter.Query

/-!
Walking a list whose nodes link to the next one.

The walk stops at the first node without a link. A link back to a node that was visited before is
reported once, as a cycle, and ends the walk, so that every walk over finitely many nodes ends.
-/

namespace HostDns.Native

/-- A walk under way: the node it comes to next, the nodes visited so far, last first, and whether a
cycle has ended it. -/
structure Walk (α : Type) where
  current : Option α
  visited : List α
  ended : Bool

namespace Walk

variable {α : Type} [DecidableEq α]

/-- The walk that comes to `head` first. -/
def start (head : Option α) : Walk α := ⟨head, [], false⟩

/-- The next node of a walk along `link`, the cycle it has run into, or `none` after its end. -/
def next (link : α → Option α) (list : String) (w : Walk α) : Option (Except Cycle α) × Walk α :=
  match w.ended, w.current with
  | true, _ => (none, w)
  | false, none => (none, w)
  | false, some node =>
    if node ∈ w.visited then
      (some (.error ⟨list, w.visited.length⟩), { w with ended := true })
    else (some (.ok node), ⟨link node, node :: w.visited, false⟩)

/-- What the first calls of `next` answer. -/
def calls (link : α → Option α) (list : String) : Nat → Walk α → List (Option (Except Cycle α))
  | 0, _ => []
  | n + 1, w =>
    let (answer, w) := w.next link list
    answer :: calls link list n w

/-- The answers of the first calls of `next`, up to the end of the walk. -/
def items (link : α → Option α) (list : String) : Nat → Walk α → List (Except Cycle α)
  | 0, _ => []
  | n + 1, w =>
    match w.next link list with
    | (none, _) => []
    | (some item, w) => item :: items link list n w

end Walk

end HostDns.Native
