import HostDns.Pattern.Size

/-!
Words that are looked for together, joined where they begin alike.

The order in which words were added counts: where one of them ends, those added later do not share
branches with those added before.
-/

namespace HostDns.Pattern

/-- What can follow a place in a set of words: bytes with what follows them, and marks where a word
ends. -/
inductive Branches where
  | done
  | step (byte : UInt8) (below rest : Branches)
  | stop (rest : Branches)
  deriving Repr, Inhabited

namespace Branches

/-- Whether no byte follows. -/
def isLeaf : Branches → Bool
  | done => true
  | step .. => false
  | stop rest => rest.isLeaf

/-- Whether a word ends here. -/
def hasStop : Branches → Bool
  | done => false
  | step _ _ rest => rest.hasStop
  | stop _ => true

/-- The branches of a single word. -/
def ofWord : List UInt8 → Branches
  | [] => stop done
  | byte :: word => step byte (ofWord word) done

/-- Marks that a word ends here, behind all branches that are there. -/
def close : Branches → Branches
  | done => stop done
  | step byte below rest => step byte below rest.close
  | stop rest => stop rest.close

/-- Adds a word. A branch is followed only if no word ends behind it. -/
def add : Branches → List UInt8 → Branches
  | t, [] => if t.isLeaf && t.hasStop then t else t.close
  | done, word => ofWord word
  | stop rest, word => stop (rest.add word)
  | step byte below rest, b :: word =>
    if b = byte && !rest.hasStop then step byte (below.add word) rest
    else step byte below (rest.add (b :: word))

/-- The branches of words. -/
def ofWords (words : List (List UInt8)) : Branches := words.foldl add done

/-- The size of a state for so many branches, with its place in the choice that it belongs to. -/
def chunk : Nat → Size
  | 0 => .none
  | 1 => ⟨1, 4⟩
  | n + 2 => Size.byRanges (n + 2) + ⟨0, 4⟩

/-- The size of the states behind a choice between branches. `run` is how many branches precede them
without a word that ends. Branches that nothing follows take no state of their own. -/
def size (run : Nat) : Branches → Size
  | done => chunk run
  | stop rest => chunk run + ⟨0, 4⟩ + rest.size 0
  | step _ below rest =>
    (if below.isLeaf then .none else Size.choice 0 + below.size 0) + rest.size (run + 1)

end Branches

end HostDns.Pattern
