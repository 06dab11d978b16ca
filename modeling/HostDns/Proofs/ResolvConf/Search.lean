import HostDns.ResolvConf.Search
import Mathlib.Data.List.Basic

/-!
What a walk over candidate paths finds where the files do not change meanwhile.

The walk stops at the first path with a file. Paths behind it, and what they hold, play no part.
-/

namespace HostDns.ResolvConf

/-- Files that do not change: each path has a text or a reason why there is none. -/
structure Files where
  text : String → Except FileError String

instance : FileAccess (ReaderM Files) where
  read path := fun files => files.text path
  write _ _ := fun _ => .error (.other 30 "Read-only file system")

namespace Files

/-- Whether there is a file at a path, readable or not. -/
def has (files : Files) (path : String) : Bool :=
  match files.text path with
  | .error .notFound => false
  | _ => true

/-- A walk over candidate paths. -/
def search (files : Files) (paths : List String) : Search :=
  ReaderT.run (Search.run (m := ReaderM Files) paths) files

/-- A path without a file is passed over, and a path with one ends the walk. -/
theorem search_cons (files : Files) (path : String) (rest : List String) :
    files.search (path :: rest) =
      if files.has path then ⟨[], some (path, files.text path)⟩
      else { files.search rest with missing := path :: (files.search rest).missing } := by
  have hrun : files.search (path :: rest) = ReaderT.run (match files.text path with
      | .error .notFound => do
        let more ← Search.run (m := ReaderM Files) rest
        return { more with missing := path :: more.missing }
      | outcome => return ⟨[], some (path, outcome)⟩) files := rfl
  rw [hrun, has]
  split
  · rfl
  · rw [if_pos rfl]
    rfl

/-- A walk passes over the paths in front of the first one with a file, and takes that one. -/
theorem search_eq (files : Files) (paths : List String) :
    files.search paths = ⟨paths.takeWhile fun path => !files.has path,
      (paths.find? files.has).map fun path => (path, files.text path)⟩ := by
  induction paths with
  | nil => rfl
  | cons path rest ih =>
    rw [search_cons, ih]
    by_cases h : files.has path = true
    · simp [h]
    · simp [h]

theorem has_eq_false_iff {files : Files} {path : String} :
    files.has path = false ↔ files.text path = .error .notFound := by
  rw [has]
  split <;> simp_all

/-- What a walk finds is the first path with a file. -/
theorem search_found_eq_some_iff {files : Files} {paths : List String} {path : String}
    {outcome : Except FileError String} :
    (files.search paths).found = some (path, outcome) ↔
      files.text path = outcome ∧ outcome ≠ .error .notFound ∧ ∃ before after,
        paths = before ++ path :: after ∧ ∀ p ∈ before, files.text p = .error .notFound := by
  rw [search_eq, Option.map_eq_some_iff]
  simp only [List.find?_eq_some_iff_append, Prod.mk.injEq, ← has_eq_false_iff, Bool.not_eq_true']
  constructor
  · rintro ⟨_, ⟨hhas, before, after, hpaths, hbefore⟩, rfl, rfl⟩
    refine ⟨rfl, fun hnone => ?_, before, after, hpaths, hbefore⟩
    rw [has_eq_false_iff.mpr hnone] at hhas
    cases hhas
  · rintro ⟨rfl, hfile, before, after, hpaths, hbefore⟩
    refine ⟨path, ⟨?_, before, after, hpaths, hbefore⟩, rfl, rfl⟩
    rwa [ne_eq, ← has_eq_false_iff, Bool.not_eq_false] at hfile

end Files

/-- Only the text of the path that was found is malformed. -/
theorem Search.nameServers?_eq_malformed_iff {s : Search} {path : String} {cause : Malformed} :
    s.nameServers? = .error (.malformed path cause) ↔
      ∃ text, s.found = some (path, .ok text) ∧ nameServers text = .error cause := by
  rw [Search.nameServers?, Search.text?]
  rcases s.found with _ | ⟨p, cause' | text⟩
  · simp [bind, Except.bind, pure, Except.pure]
  · simp [bind, Except.bind]
  · cases hread : nameServers text <;>
      simp [bind, Except.bind, pure, Except.pure, hread, and_comm]

end HostDns.ResolvConf
