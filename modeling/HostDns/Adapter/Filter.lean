import HostDns.Adapter.Query
import HostDns.Log

/-!
Filters of adapters, and sources that keep only what a filter accepts.

A chain rejects what any of its excludes matches or any of its requires does not. Of the rest it
accepts what an include matches, and everything if it has no include. Names are matched by a compiled
pattern, of which only its text and the names it matches matter here.
-/

namespace HostDns

/-- A compiled pattern: its text, and whether it matches somewhere in a name. -/
structure NamePattern where
  source : String
  matchesName : String → Bool

/-- A filter of adapters. -/
inductive AdapterFilter where
  | kinds (kinds : List AdapterKind)
  | name (pattern : NamePattern)
  | up
  /-- A filter behind a box, which matches as it does in the open. -/
  | boxed (filter : AdapterFilter)
  | chain (includes excludes requires : List AdapterFilter)

namespace AdapterFilter

/-- The filter of a set of sorts, given as a list. -/
def ofKinds (list : List AdapterKind) : AdapterFilter := .kinds list.eraseDups

mutual

/-- Whether a filter accepts an adapter. -/
def accepts : AdapterFilter → Adapter → Bool
  | .kinds accepted, a => accepted.contains a.kind
  | .name pattern, a => pattern.matchesName a.friendlyName
  | .up, a => a.operStatus.isUp
  | .boxed filter, a => filter.accepts a
  | .chain includes excludes requires, a =>
    !anyAccepts excludes a && allAccept requires a && (includes.isEmpty || anyAccepts includes a)

/-- Whether some filter of a list accepts an adapter. -/
def anyAccepts : List AdapterFilter → Adapter → Bool
  | [], _ => false
  | filter :: rest, a => filter.accepts a || anyAccepts rest a

/-- Whether every filter of a list accepts an adapter. -/
def allAccept : List AdapterFilter → Adapter → Bool
  | [], _ => true
  | filter :: rest, a => filter.accepts a && allAccept rest a

end

end AdapterFilter

/-- The part that a filter plays in a chain. -/
inductive FilterRole where
  | including
  | excluding
  | requiring
  deriving DecidableEq, Repr

/-- A chain of filters, which can be added to. -/
structure FilterChain where
  includes : List AdapterFilter
  excludes : List AdapterFilter
  requires : List AdapterFilter

namespace FilterChain

/-- The chain that accepts everything. -/
def empty : FilterChain := ⟨[], [], []⟩

/-- Adds a filter in a role. -/
def add (c : FilterChain) : FilterRole → AdapterFilter → FilterChain
  | .including, filter => { c with includes := c.includes ++ [filter] }
  | .excluding, filter => { c with excludes := c.excludes ++ [filter] }
  | .requiring, filter => { c with requires := c.requires ++ [filter] }

/-- A chain as a filter. -/
def filter (c : FilterChain) : AdapterFilter := .chain c.includes c.excludes c.requires

/-- Whether the chain accepts an adapter. -/
def accepts (c : FilterChain) (a : Adapter) : Bool := c.filter.accepts a

/-- Whether the chain has no filter. -/
def isEmpty (c : FilterChain) : Bool :=
  c.includes.isEmpty && c.excludes.isEmpty && c.requires.isEmpty

/-- How many filters the chain has in each role, in words. -/
def summary (c : FilterChain) : String :=
  "FilterChain \x7b include_count: " ++ toString c.includes.length ++
    ", exclude_count: " ++ toString c.excludes.length ++
    ", require_count: " ++ toString c.requires.length ++ " \x7d"

end FilterChain

/-- The source that keeps of what another one answers the adapters that a filter accepts. -/
def AdapterSource.filtered {m : Type → Type} [Monad m] (source : AdapterSource m)
    (filter : AdapterFilter) : AdapterSource m := fun query => do
  return (← source query).map (·.filter filter.accepts)

end HostDns
