import HostDns.Discovery
import HostDns.Proofs.ResolvConf.Search

/-!
Runs over files that do not change.

Such a run is told by what it comes to and by the paths that it reads on the way, in order. What the
files hold at any other path plays no part in it. A walk over candidate paths reads the paths without
a file in front of the first one with a file, and that one.
-/

namespace HostDns

open ResolvConf

/-- A setting whose files do not change, and in which the paths that are read are noted in order. -/
abbrev Session := StateT (List String) (ReaderM Files)

instance : FileAccess Session where
  read path := fun reads files => (files.text path, reads ++ [path])
  write _ _ := fun reads _ => (.error (.other 30 "Read-only file system"), reads)

namespace ResolvConf

/-- The paths that a walk tried, in order. -/
def Search.tried (s : Search) : List String := s.missing ++ (s.found.map Prod.fst).toList

namespace Files

/-- What a run comes to, and the paths that it reads. -/
def observe {α : Type} (files : Files) (run : Session α) : α × List String :=
  ReaderT.run (StateT.run run []) files

/-- Whatever was read before, a run comes to `a` and reads `reads`. -/
def Comes {α : Type} (files : Files) (run : Session α) (a : α) (reads : List String) : Prop :=
  ∀ before, ReaderT.run (StateT.run run before) files = (a, before ++ reads)

variable {files : Files} {α β : Type}

theorem Comes.observe_eq {run : Session α} {a : α} {reads : List String}
    (h : files.Comes run a reads) : files.observe run = (a, reads) := h []

theorem comes_pure (files : Files) (a : α) : files.Comes (pure a) a [] := fun before => by
  rw [List.append_nil]
  rfl

theorem comes_read (files : Files) (path : String) :
    files.Comes (FileAccess.read path) (files.text path) [path] := fun _ => rfl

theorem run_bind (files : Files) (run : Session α) (next : α → Session β) (before : List String) :
    ReaderT.run (StateT.run (run >>= next) before) files =
      ReaderT.run (StateT.run (next (ReaderT.run (StateT.run run before) files).1)
        (ReaderT.run (StateT.run run before) files).2) files := rfl

/-- The second part of a run reads on where the first one ends. -/
theorem Comes.bind {run : Session α} {next : α → Session β} {a : α} {b : β}
    {first second : List String} (ha : files.Comes run a first) (hb : files.Comes (next a) b second) :
    files.Comes (run >>= next) b (first ++ second) := fun before => by
  rw [run_bind, ha, hb, List.append_assoc]

theorem Comes.bind_pure {run : Session α} {next : α → Session β} {a : α} {b : β}
    {reads : List String} (ha : files.Comes run a reads) (hb : next a = pure b) :
    files.Comes (run >>= next) b reads := by
  have hnext : files.Comes (next a) b [] := hb ▸ files.comes_pure b
  simpa using ha.bind hnext

theorem has_iff {path : String} : files.has path = true ↔ files.text path ≠ .error .notFound := by
  rw [ne_eq, ← has_eq_false_iff, Bool.not_eq_false]

/-- A walk finds what it would find without an account of its reads, and reads what it tries. -/
theorem comes_search (files : Files) : ∀ paths : List String,
    files.Comes (Search.run paths) (files.search paths) (files.search paths).tried
  | [] => files.comes_pure _
  | path :: rest => by
    have hread := files.comes_read path
    rw [search_cons]
    by_cases h : files.has path
    · rw [if_pos h]
      refine hread.bind_pure (?_ : _ = pure (⟨[], some (path, files.text path)⟩ : Search))
      split
      · next hnone => exact absurd hnone (has_iff.mp h)
      · rfl
    · have hmissing : files.text path = .error .notFound := has_eq_false_iff.mp (by simpa using h)
      rw [if_neg h]
      rw [hmissing] at hread
      exact hread.bind ((comes_search files rest).bind_pure rfl)

/-- A walk passes over paths without a file. -/
theorem search_append (rest : List String) : ∀ {before : List String},
    (∀ p ∈ before, files.text p = .error .notFound) → files.search (before ++ rest) =
      { files.search rest with missing := before ++ (files.search rest).missing }
  | [], _ => rfl
  | path :: before, h => by
    obtain ⟨hpath, hbefore⟩ := List.forall_mem_cons.mp h
    rw [List.cons_append, search_cons, has_eq_false_iff.mpr hpath, search_append rest hbefore]
    rfl

/-- Where no path has a file, all of them are tried and none is found. -/
theorem search_of_missing {paths : List String} (h : ∀ p ∈ paths, files.text p = .error .notFound) :
    files.search paths = ⟨paths, none⟩ := by
  have hall := search_append [] h
  rw [List.append_nil] at hall
  rw [hall, search_eq, List.find?_nil, List.takeWhile_nil, List.append_nil, Option.map_none]

/-- The first path with a file is found, and no path behind it is tried. -/
theorem search_of_first {before : List String} {path : String}
    (hbefore : ∀ p ∈ before, files.text p = .error .notFound)
    (hpath : files.text path ≠ .error .notFound) (after : List String) :
    files.search (before ++ path :: after) = ⟨before, some (path, files.text path)⟩ := by
  rw [search_append _ hbefore, search_cons, if_pos (has_iff.mpr hpath), List.append_nil]

end Files

end ResolvConf

end HostDns
