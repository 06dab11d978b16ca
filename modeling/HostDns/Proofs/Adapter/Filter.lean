import HostDns.Adapter.Filter
import Mathlib.Data.List.Basic

/-!
What a chain of filters accepts, told from what its filters accept.
-/

namespace HostDns

namespace AdapterFilter

theorem anyAccepts_iff {a : Adapter} : ∀ {filters : List AdapterFilter},
    anyAccepts filters a = true ↔ ∃ f ∈ filters, f.accepts a = true
  | [] => by simp [anyAccepts]
  | f :: filters => by
    rw [anyAccepts, Bool.or_eq_true, anyAccepts_iff, List.exists_mem_cons_iff]

theorem allAccept_iff {a : Adapter} : ∀ {filters : List AdapterFilter},
    allAccept filters a = true ↔ ∀ f ∈ filters, f.accepts a = true
  | [] => by simp [allAccept]
  | f :: filters => by
    rw [allAccept, Bool.and_eq_true, allAccept_iff, List.forall_mem_cons]

theorem accepts_ofKinds {kinds : List AdapterKind} {a : Adapter} :
    (ofKinds kinds).accepts a = true ↔ a.kind ∈ kinds := by
  rw [ofKinds, accepts, List.contains_iff_mem, List.mem_eraseDups]

end AdapterFilter

/-- A chain accepts what no exclude matches, what every require matches, and, unless it has no include,
what some include matches. -/
theorem FilterChain.accepts_iff {c : FilterChain} {a : Adapter} : c.accepts a = true ↔
    (∀ f ∈ c.excludes, ¬ f.accepts a = true) ∧ (∀ f ∈ c.requires, f.accepts a = true) ∧
      (c.includes = [] ∨ ∃ f ∈ c.includes, f.accepts a = true) := by
  rw [accepts, filter, AdapterFilter.accepts, Bool.and_eq_true, Bool.and_eq_true, Bool.or_eq_true,
    Bool.not_eq_true', ← Bool.not_eq_true, AdapterFilter.anyAccepts_iff, AdapterFilter.allAccept_iff,
    AdapterFilter.anyAccepts_iff, List.isEmpty_iff, and_assoc, not_exists]
  simp only [not_and]

end HostDns
