import HostDns.Proofs.Adapter.Filter

/-!
What filters accept, nested to any depth and built by any calls.

A filter is a tree of chains, so what holds of trees is shown by induction on them. A chain is built by
calls that each add a filter in a role. What it accepts depends on the verdicts of its filters in each
role alone: neither on the order of the calls, nor on how often a filter is added, nor on boxes. An
include is the one call that may let more in, and only a chain that has one already; the first include
of a chain may shut out what was accepted without it, so a chain with includes cannot be spread out
over the chain that requires it.
-/

namespace HostDns

namespace AdapterFilter

/-! ### Trees of filters -/

/-- Induction on a filter: what holds of the filters in a chain has to be carried over to the chain. -/
@[elab_as_elim]
theorem treeInduction {P : AdapterFilter → Prop} (kinds : ∀ ks, P (.kinds ks))
    (name : ∀ pattern, P (.name pattern)) (up : P .up) (boxed : ∀ f, P f → P (.boxed f))
    (chain : ∀ includes excludes requires, (∀ f ∈ includes, P f) → (∀ f ∈ excludes, P f) →
      (∀ f ∈ requires, P f) → P (.chain includes excludes requires)) : ∀ f, P f
  | .kinds ks => kinds ks
  | .name pattern => name pattern
  | .up => up
  | .boxed f => boxed f (treeInduction kinds name up boxed chain f)
  | .chain includes excludes requires =>
    chain includes excludes requires
      (fun f _ => treeInduction kinds name up boxed chain f)
      (fun f _ => treeInduction kinds name up boxed chain f)
      (fun f _ => treeInduction kinds name up boxed chain f)

/-- Whether a filter lets an adapter through: a chain does unless one of its excludes lets it through,
one of its requires does not, or it has includes and none of them does. -/
def Admits (a : Adapter) : AdapterFilter → Prop
  | .kinds ks => a.kind ∈ ks
  | .name pattern => pattern.matchesName a.friendlyName = true
  | .up => a.operStatus = .up
  | .boxed f => f.Admits a
  | .chain includes excludes requires =>
    (∀ f ∈ excludes, ¬ f.Admits a) ∧ (∀ f ∈ requires, f.Admits a) ∧
      (includes = [] ∨ ∃ f, ∃ _ : f ∈ includes, f.Admits a)

mutual

/-- A filter with no box around it or any filter inside it. -/
def unboxed : AdapterFilter → AdapterFilter
  | .boxed f => f.unboxed
  | .chain includes excludes requires =>
    .chain (allUnboxed includes) (allUnboxed excludes) (allUnboxed requires)
  | f => f

/-- Filters with no box around them or any filter inside them. -/
def allUnboxed : List AdapterFilter → List AdapterFilter
  | [] => []
  | f :: rest => f.unboxed :: allUnboxed rest

end

theorem allUnboxed_eq_map : ∀ filters : List AdapterFilter, allUnboxed filters = filters.map unboxed
  | [] => rfl
  | f :: rest => congrArg (f.unboxed :: ·) (allUnboxed_eq_map rest)

/-! ### Verdicts -/

/-- Whether two lists of filters come to the same verdicts on an adapter. -/
def SameVerdicts (a : Adapter) (fs gs : List AdapterFilter) : Prop :=
  ∀ verdict, (∃ f ∈ fs, f.accepts a = verdict) ↔ ∃ g ∈ gs, g.accepts a = verdict

namespace SameVerdicts

variable {a : Adapter} {fs gs : List AdapterFilter}

theorem of_mem_iff (a : Adapter) (h : ∀ f, f ∈ fs ↔ f ∈ gs) : SameVerdicts a fs gs :=
  fun _ => exists_congr fun f => and_congr_left' (h f)

theorem map_of_accepts {replace : AdapterFilter → AdapterFilter}
    (h : ∀ f ∈ fs, (replace f).accepts a = f.accepts a) : SameVerdicts a (fs.map replace) fs := by
  intro verdict
  simp only [List.mem_map, exists_exists_and_eq_and]
  exact exists_congr fun f => and_congr_right fun hf => by rw [h f hf]

theorem none_iff (h : SameVerdicts a fs gs) :
    (∀ f ∈ fs, ¬ f.accepts a = true) ↔ ∀ g ∈ gs, ¬ g.accepts a = true := by
  have hsome := not_congr (h true)
  push Not at hsome
  exact hsome

theorem all_iff (h : SameVerdicts a fs gs) :
    (∀ f ∈ fs, f.accepts a = true) ↔ ∀ g ∈ gs, g.accepts a = true := by
  have hsome := not_congr (h false)
  push Not at hsome
  simpa using hsome

theorem eq_nil_iff (h : SameVerdicts a fs gs) : fs = [] ↔ gs = [] := by
  -- a filter comes to some verdict, so a list without verdicts has no filter
  have hnil : ∀ l : List AdapterFilter, l = [] ↔ ∀ verdict, ¬ ∃ f ∈ l, f.accepts a = verdict := by
    intro l
    rw [List.eq_nil_iff_forall_not_mem]
    exact ⟨fun h _ ⟨f, hf, _⟩ => h f hf, fun h f hf => h _ ⟨f, hf, rfl⟩⟩
  rw [hnil, hnil]
  exact forall_congr' fun verdict => not_congr (h verdict)

end SameVerdicts

end AdapterFilter

namespace FilterChain

open AdapterFilter

variable {a : Adapter}

/-- The filters of a chain in a role. -/
def filters (c : FilterChain) : FilterRole → List AdapterFilter
  | .including => c.includes
  | .excluding => c.excludes
  | .requiring => c.requires

/-- Chains whose filters come to the same verdicts in each role accept the same adapters. -/
theorem accepts_congr {c c' : FilterChain}
    (h : ∀ role, SameVerdicts a (c.filters role) (c'.filters role)) : c.accepts a = c'.accepts a := by
  rw [Bool.eq_iff_iff, accepts_iff, accepts_iff]
  exact and_congr (h .excluding).none_iff
    (and_congr (h .requiring).all_iff (or_congr (h .including).eq_nil_iff (h .including true)))

end FilterChain

namespace AdapterFilter

/-- Filters accept what they let through. -/
theorem accepts_iff_admits (a : Adapter) (f : AdapterFilter) : f.accepts a = true ↔ f.Admits a := by
  induction f using treeInduction with
  | kinds ks => rw [accepts, Admits, List.contains_iff_mem]
  | name pattern => rw [accepts, Admits]
  | up => rw [accepts, Admits, OperStatus.isUp, decide_eq_true_eq]
  | boxed f ih => rw [accepts, Admits, ih]
  | chain includes excludes requires hincludes hexcludes hrequires =>
    have hchain := FilterChain.accepts_iff (c := ⟨includes, excludes, requires⟩) (a := a)
    rw [FilterChain.accepts, FilterChain.filter] at hchain
    rw [hchain, Admits]
    refine and_congr ?_ (and_congr ?_ (or_congr Iff.rfl ?_))
    · exact forall₂_congr fun f hf => not_congr (hexcludes f hf)
    · exact forall₂_congr hrequires
    · exact exists_congr fun f => by
        rw [exists_prop]
        exact and_congr_right (hincludes f)

/-- Boxes change nothing, wherever they stand. -/
theorem accepts_unboxed (a : Adapter) (f : AdapterFilter) : f.unboxed.accepts a = f.accepts a := by
  induction f using treeInduction with
  | kinds ks => rfl
  | name pattern => rfl
  | up => rfl
  | boxed f ih => rw [unboxed, ih, accepts]
  | chain includes excludes requires hincludes hexcludes hrequires =>
    rw [unboxed, allUnboxed_eq_map, allUnboxed_eq_map, allUnboxed_eq_map]
    have hchain := @FilterChain.accepts_congr a
      ⟨includes.map unboxed, excludes.map unboxed, requires.map unboxed⟩ ⟨includes, excludes, requires⟩
    refine hchain fun role => ?_
    cases role with
    | including => exact .map_of_accepts hincludes
    | excluding => exact .map_of_accepts hexcludes
    | requiring => exact .map_of_accepts hrequires

end AdapterFilter

namespace FilterChain

open AdapterFilter

/-! ### Calls -/

/-- The chain behind calls, each of which adds a filter in a role. -/
def addAll (c : FilterChain) (calls : List (FilterRole × AdapterFilter)) : FilterChain :=
  calls.foldl (fun c call => c.add call.1 call.2) c

theorem mem_filters_add {c : FilterChain} {role role' : FilterRole} {f g : AdapterFilter} :
    f ∈ (c.add role g).filters role' ↔ f ∈ c.filters role' ∨ (role', f) = (role, g) := by
  cases role <;> cases role' <;> simp [add, filters]

theorem mem_filters_addAll {role : FilterRole} {f : AdapterFilter}
    {calls : List (FilterRole × AdapterFilter)} : ∀ {c : FilterChain},
      f ∈ (c.addAll calls).filters role ↔ f ∈ c.filters role ∨ (role, f) ∈ calls := by
  induction calls with
  | nil => simp [addAll]
  | cons call calls ih =>
    intro c
    rw [addAll, List.foldl_cons, ← addAll, ih, mem_filters_add, List.mem_cons, or_assoc]

/-- Behind calls a chain accepts what no exclude matches, what every require matches, and, unless there
is no include, what some include matches; the filters are those of the chain before and of the calls. -/
theorem accepts_addAll_iff {c : FilterChain} {calls : List (FilterRole × AdapterFilter)} :
    (c.addAll calls).accepts a = true ↔
      (∀ f, f ∈ c.excludes ∨ (.excluding, f) ∈ calls → ¬ f.accepts a = true) ∧
      (∀ f, f ∈ c.requires ∨ (.requiring, f) ∈ calls → f.accepts a = true) ∧
      ((∀ f, ¬ (f ∈ c.includes ∨ (.including, f) ∈ calls)) ∨
        ∃ f, (f ∈ c.includes ∨ (.including, f) ∈ calls) ∧ f.accepts a = true) := by
  have hmem : ∀ role f, f ∈ (c.addAll calls).filters role ↔ f ∈ c.filters role ∨ (role, f) ∈ calls :=
    fun _ _ => mem_filters_addAll
  rw [accepts_iff, List.eq_nil_iff_forall_not_mem]
  refine and_congr ?_ (and_congr ?_ (or_congr ?_ ?_))
  · exact forall_congr' fun f => imp_congr_left (hmem .excluding f)
  · exact forall_congr' fun f => imp_congr_left (hmem .requiring f)
  · exact forall_congr' fun f => not_congr (hmem .including f)
  · exact exists_congr fun f => and_congr_left' (hmem .including f)

theorem accepts_add_excluding {c : FilterChain} {f : AdapterFilter} :
    (c.add .excluding f).accepts a = true ↔ c.accepts a = true ∧ ¬ f.accepts a = true := by
  simp only [accepts_iff, add, List.forall_mem_append, List.forall_mem_singleton]
  tauto

theorem accepts_add_requiring {c : FilterChain} {f : AdapterFilter} :
    (c.add .requiring f).accepts a = true ↔ c.accepts a = true ∧ f.accepts a = true := by
  simp only [accepts_iff, add, List.forall_mem_append, List.forall_mem_singleton]
  tauto

theorem accepts_add_including {c : FilterChain} {f : AdapterFilter} (h : c.includes ≠ [])
    (ha : c.accepts a = true) : (c.add .including f).accepts a = true := by
  rw [accepts_iff] at ha ⊢
  obtain ⟨hexcludes, hrequires, hincludes⟩ := ha
  obtain ⟨g, hg, hga⟩ := hincludes.resolve_left h
  exact ⟨hexcludes, hrequires, Or.inr ⟨g, List.mem_append_left _ hg, hga⟩⟩

/-- Calls that add the same filters in each role build chains that accept the same adapters. -/
theorem accepts_addAll_congr {c : FilterChain} {calls calls' : List (FilterRole × AdapterFilter)}
    (h : ∀ call, call ∈ calls ↔ call ∈ calls') :
    (c.addAll calls).accepts a = (c.addAll calls').accepts a := by
  refine accepts_congr fun role => .of_mem_iff a fun f => ?_
  rw [mem_filters_addAll, mem_filters_addAll, h]

/-- The calls that add the excludes and the requires of a chain. -/
def restrictions (c : FilterChain) : List (FilterRole × AdapterFilter) :=
  c.excludes.map (.excluding, ·) ++ c.requires.map (.requiring, ·)

/-- A chain without includes may be spread out over a chain that requires it. -/
theorem accepts_require_chain {outer inner : FilterChain} (h : inner.includes = []) :
    (outer.add .requiring inner.filter).accepts a =
      (outer.addAll inner.restrictions).accepts a := by
  have hexcluding : ∀ f, (.excluding, f) ∈ inner.restrictions ↔ f ∈ inner.excludes := by
    simp [restrictions]
  have hrequiring : ∀ f, (.requiring, f) ∈ inner.restrictions ↔ f ∈ inner.requires := by
    simp [restrictions]
  have hincluding : ∀ f, (.including, f) ∉ inner.restrictions := by simp [restrictions]
  have hinner := accepts_iff (c := inner) (a := a)
  rw [accepts, h] at hinner
  rw [Bool.eq_iff_iff, accepts_add_requiring, accepts_addAll_iff, accepts_iff, hinner]
  simp only [hexcluding, hrequiring, hincluding, or_false, or_imp, forall_and,
    List.eq_nil_iff_forall_not_mem]
  tauto

/-- What a chain behind calls accepts: what no exclude matches and every require, and, unless there is
no include, some include. Filters are trees of chains, and match what they let through at every depth.
Hence it matters only which filters are added in which role; an exclude or a require lets nothing more
in, and one include more shuts nothing out; boxes change nothing at any depth; and a chain without
includes that is required may be spread out. -/
theorem accepts_of_calls (a : Adapter) :
    (∀ f : AdapterFilter, f.accepts a = true ↔ f.Admits a) ∧
      (∀ calls, (empty.addAll calls).accepts a = true ↔
        (∀ f, (.excluding, f) ∈ calls → ¬ f.accepts a = true) ∧
        (∀ f, (.requiring, f) ∈ calls → f.accepts a = true) ∧
        ((∀ f, (.including, f) ∉ calls) ∨ ∃ f, (.including, f) ∈ calls ∧ f.accepts a = true)) ∧
      (∀ calls calls', (∀ call, call ∈ calls ↔ call ∈ calls') →
        (empty.addAll calls).accepts a = (empty.addAll calls').accepts a) ∧
      (∀ (c : FilterChain) f, c.accepts a = false →
        (c.add .excluding f).accepts a = false ∧ (c.add .requiring f).accepts a = false) ∧
      (∀ (c : FilterChain) f, c.includes ≠ [] → c.accepts a = true →
        (c.add .including f).accepts a = true) ∧
      (∀ f : AdapterFilter, f.boxed.accepts a = f.accepts a ∧ f.unboxed.accepts a = f.accepts a) ∧
      ∀ outer inner : FilterChain, inner.includes = [] →
        (outer.add .requiring inner.filter).accepts a =
          (outer.addAll inner.restrictions).accepts a := by
  refine ⟨accepts_iff_admits a, fun calls => ?_, fun _ _ => accepts_addAll_congr, fun c f hc => ?_,
    fun _ _ => accepts_add_including, fun f => ⟨by rw [AdapterFilter.accepts], accepts_unboxed a f⟩,
    fun _ _ => accepts_require_chain⟩
  · rw [accepts_addAll_iff]
    simp [empty]
  · rw [← Bool.not_eq_true] at hc
    rw [← Bool.not_eq_true, ← Bool.not_eq_true, accepts_add_excluding, accepts_add_requiring]
    exact ⟨fun h => hc h.1, fun h => hc h.1⟩

/-- The first include of a chain may shut out what the chain accepted, so only one more is harmless. -/
example (a : Adapter) (h : a.operStatus = .down) :
    empty.accepts a = true ∧ (empty.add .including .up).accepts a = false := by
  simp [accepts, filter, empty, add, AdapterFilter.accepts, anyAccepts, allAccept,
    OperStatus.isUp, h]

end FilterChain

end HostDns
