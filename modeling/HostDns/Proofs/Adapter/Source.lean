import HostDns.Proofs.Adapter.Calls
import Mathlib.Data.List.Perm.Basic

/-!
Sources behind filters.

All that a source takes from a filter is whether it passes an adapter, so filters of any make come as
tests here, and those of chains are one make. A source behind several tests asks the source inside once,
and what comes back is what passes them all. The order of the tests plays no part in that, and one chain
that requires them does the same.
-/

namespace HostDns

/-- The test that a chain of tests makes, by the rule of a chain of filters. -/
def chainTest (includes excludes requires : List (Adapter → Bool)) (a : Adapter) : Bool :=
  !excludes.any (· a) && requires.all (· a) && (includes.isEmpty || includes.any (· a))

/-- A chain of filters is a chain of their tests. -/
theorem AdapterFilter.accepts_chain (includes excludes requires : List AdapterFilter) :
    (AdapterFilter.chain includes excludes requires).accepts =
      chainTest (includes.map accepts) (excludes.map accepts) (requires.map accepts) := by
  have hany : ∀ (filters : List AdapterFilter) a,
      (filters.map accepts).any (· a) = anyAccepts filters a := by
    intro filters a
    rw [Bool.eq_iff_iff, anyAccepts_iff]
    simp
  have hall : ∀ (filters : List AdapterFilter) a,
      (filters.map accepts).all (· a) = allAccept filters a := by
    intro filters a
    rw [Bool.eq_iff_iff, allAccept_iff]
    simp
  funext a
  rw [accepts, chainTest, hany, hany, hall, List.isEmpty_map]

/-- Calls that require filters add them behind those that a chain requires. -/
theorem FilterChain.addAll_requiring (filters : List AdapterFilter) : ∀ c : FilterChain,
    c.addAll (filters.map (.requiring, ·)) = { c with requires := c.requires ++ filters } := by
  induction filters with
  | nil =>
    intro c
    simp [addAll]
  | cons f filters ih =>
    intro c
    rw [List.map_cons, addAll, List.foldl_cons, ← addAll, ih]
    simp [add]

namespace AdapterSource

variable {m : Type → Type} [Monad m]

/-- The source that keeps of what another one answers the adapters that pass a test. -/
def keeping (source : AdapterSource m) (test : Adapter → Bool) : AdapterSource m := fun query => do
  return (← source query).map (·.filter test)

/-- The source behind several tests, the first of which is the innermost. -/
def behind (source : AdapterSource m) (tests : List (Adapter → Bool)) : AdapterSource m :=
  tests.foldl keeping source

/-- The source with an account of the queries that it is asked. -/
def recorded (source : AdapterSource m) : AdapterSource (StateT (List AdapterQuery) m) :=
  fun query => do
    modify (· ++ [query])
    source query

/-- What is left of an answer behind tests: of adapters those that pass every test, each as often as it
comes up and in the order of the answer, and an error as it is. -/
def passing (tests : List (Adapter → Bool)) :
    Except FetchError (List Adapter) → Except FetchError (List Adapter)
  | .error cause => .error cause
  | .ok adapters => .ok (adapters.filter fun a => ∀ test ∈ tests, test a = true)

theorem filtered_eq_keeping (source : AdapterSource m) (f : AdapterFilter) :
    source.filtered f = source.keeping f.accepts := rfl

theorem passing_nil : passing [] = id := by
  funext answer
  rcases answer with cause | adapters
  · rfl
  · simp [passing]

theorem passing_cons (test : Adapter → Bool) (tests : List (Adapter → Bool)) :
    passing (test :: tests) = fun answer => passing tests (answer.map (·.filter test)) := by
  funext answer
  rcases answer with cause | adapters
  · rfl
  · simp [passing, Except.map, List.filter_filter, Bool.and_comm]

/-- What passes tests does not depend on their order, nor on how often one is made. -/
theorem passing_congr {tests tests' : List (Adapter → Bool)}
    (h : ∀ test, test ∈ tests ↔ test ∈ tests') : passing tests = passing tests' := by
  funext answer
  rcases answer with cause | adapters
  · rfl
  · simp only [passing, h]

/-- A chain that requires tests leaves what passes them. -/
theorem passing_chainTest (tests : List (Adapter → Bool)) :
    passing [chainTest [] [] tests] = passing tests := by
  funext answer
  rcases answer with cause | adapters
  · rfl
  · simp [passing, chainTest]

theorem foldl_filtered (source : AdapterSource m) (filters : List AdapterFilter) :
    filters.foldl filtered source = source.behind (filters.map AdapterFilter.accepts) := by
  rw [behind, List.foldl_map]
  rfl

section Lawful

variable [LawfulMonad m]

/-- A source behind tests asks the source inside, and leaves of its answer what passes them. -/
theorem behind_eq (tests : List (Adapter → Bool)) : ∀ source : AdapterSource m,
    source.behind tests = fun query => passing tests <$> source query := by
  -- The first test is the innermost, so the step of the induction puts it into the source.
  induction tests with
  | nil =>
    intro source
    funext query
    rw [behind, List.foldl_nil, passing_nil, id_map]
  | cons test tests ih =>
    intro source
    rw [behind, List.foldl_cons, ← behind, ih]
    funext query
    simp [keeping, passing_cons]

theorem run_recorded (source : AdapterSource m) (query : AdapterQuery) (asked : List AdapterQuery) :
    (source.recorded query).run asked = (·, asked ++ [query]) <$> source query := by
  simp [recorded]

/-- One chain that requires tests does what the tests do one behind the other. -/
theorem behind_eq_keeping (source : AdapterSource m) (tests : List (Adapter → Bool)) :
    source.behind tests = source.keeping (chainTest [] [] tests) := by
  have hone : source.keeping (chainTest [] [] tests) = source.behind [chainTest [] [] tests] := rfl
  rw [hone, behind_eq, behind_eq, passing_chainTest]

/-- A source behind tests, of any number and make, asks the source inside exactly once and for just what
it is asked for. An error comes back as it is, and of adapters those that pass every test come back in
their order, each as often as it came up. So the order of the tests plays no part, and one chain that
requires them all does the same. The filters of a chain are such tests, nested ones too. -/
theorem behind_filters (source : AdapterSource m) (query : AdapterQuery) :
    (∀ tests, source.behind tests query = passing tests <$> source query) ∧
    (∀ tests asked, (source.recorded.behind tests query).run asked =
      (fun answer => (passing tests answer, asked ++ [query])) <$> source query) ∧
    (∀ tests tests', tests.Perm tests' → source.behind tests = source.behind tests') ∧
    (∀ tests, source.behind tests = source.keeping (chainTest [] [] tests)) ∧
    (∀ includes excludes requires, (AdapterFilter.chain includes excludes requires).accepts =
      chainTest (includes.map (·.accepts)) (excludes.map (·.accepts)) (requires.map (·.accepts))) ∧
    ∀ filters : List AdapterFilter,
      filters.foldl filtered source = source.behind (filters.map (·.accepts)) ∧
      filters.foldl filtered source =
        source.filtered (FilterChain.empty.addAll (filters.map (.requiring, ·))).filter := by
  refine ⟨fun tests => by rw [behind_eq], fun tests asked => ?_, fun tests tests' h => ?_,
    source.behind_eq_keeping, AdapterFilter.accepts_chain, fun filters => ⟨?_, ?_⟩⟩
  · rw [behind_eq, StateT.run_map, run_recorded, Functor.map_map]
  · rw [behind_eq, behind_eq, passing_congr fun _ => h.mem_iff]
  · exact source.foldl_filtered filters
  · have hchain : (FilterChain.empty.addAll (filters.map (.requiring, ·))).filter =
        .chain [] [] filters := by
      rw [FilterChain.addAll_requiring]
      rfl
    rw [foldl_filtered, behind_eq_keeping, hchain, filtered_eq_keeping, AdapterFilter.accepts_chain]
    rfl

/-- An adapter that comes up twice is kept twice, whichever of the two tests is made first. -/
theorem behind_filters_both_orders :
    let up := AdapterFilter.up.accepts
    let virtual := (AdapterFilter.ofKinds [.virtual]).accepts
    let kept := Adapter.named 7 "tun0" .virtual
    let source : AdapterSource Id := fun _ =>
      .ok [kept, Adapter.named 1 "lo" .loopback, { kept with operStatus := .down }, kept]
    [up, virtual].Perm [virtual, up] ∧ source.behind [virtual, up] .listing = .ok [kept, kept] := by
  intro up virtual kept source
  have hperm : [up, virtual].Perm [virtual, up] := .swap ..
  have hall := behind_filters source .listing
  refine ⟨hperm, ?_⟩
  rw [← hall.2.2.1 _ _ hperm, hall.1]
  rfl

end Lawful

end AdapterSource

end HostDns
