import HostDns.Adapter.Filter
import HostDns.Pattern.Reader

/-!
Patterns for the names of adapters.
-/

namespace HostDns

/-- The pattern that a text spells, ready to be matched against names. -/
def NamePattern.compile (source : String) : Except Pattern.PatternError NamePattern :=
  (Pattern.ofString source).map fun p => ⟨source, p.matchesIn⟩

end HostDns
