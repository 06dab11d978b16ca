import HostDns.File.Tree
import Mathlib.Data.List.Basic

/-!
What is written to a path is read from it.

A write puts a file where there was no directory. So walks along directories that lead somewhere before
it lead to the same place behind it, and one step more leads to the file.
-/

namespace HostDns.FileTree

variable {t t' : FileTree} {target : List String} {place place' : Place}

theorem entry_put_self (t : FileTree) (target : List String) (e : Entry) :
    (t.put target e).entry target = some e := if_pos rfl

theorem entry_put_of_ne {names : List String} (h : names ≠ target) (e : Entry) :
    (t.put target e).entry names = t.entry names := if_neg h

/-- A directory stays one if an entry is put elsewhere. -/
theorem atPlace_put (htarget : t.entry target ≠ some .directory) (e : Entry)
    (hplace : t.atPlace place = some .directory) :
    (t.put target e).atPlace place = some .directory := by
  rcases place with (_ | ⟨name, names⟩) | _
  · rfl
  · have hne : name :: names ≠ target := by
      rintro rfl
      exact htarget hplace
    rw [atPlace, entry_put_of_ne hne]
    · exact hplace
    · exact List.cons_ne_nil _ _
  · rfl

theorem isSome_entry_put {names : List String} (h : (t.entry names).isSome = true) (e : Entry) :
    ((t.put target e).entry names).isSome = true := by
  by_cases hne : names = target
  · rw [hne, entry_put_self]
    rfl
  · rw [entry_put_of_ne hne, h]

theorem atPlace_of_step {name : String} (h : t.step place name = .ok place') :
    t.atPlace place = some .directory := by
  rw [step.eq_def] at h
  split at h
  · cases h
  · cases h
  · assumption

/-- A step leads to the same place if an entry is put where no directory is. -/
theorem step_put (htarget : t.entry target ≠ some .directory) (e : Entry) {name : String}
    (h : t.step place name = .ok place') : (t.put target e).step place name = .ok place' := by
  -- The place is a directory, so nothing is put there; the entry that the step leads to is still one.
  have hplace := atPlace_of_step h
  rw [step.eq_def, hplace] at h
  rw [step.eq_def, atPlace_put htarget e hplace]
  simp only at h ⊢
  split at h
  · next hname =>
    rw [if_pos hname]
    exact h
  next hname =>
  rw [if_neg hname]
  split at h
  · next hup =>
    rw [if_pos hup]
    exact h
  next hup =>
  rw [if_neg hup]
  split at h
  · cases h
  next hlength =>
  rw [if_neg hlength]
  rcases place with names | _
  · simp only at h ⊢
    split at h
    · next hsome =>
      rw [if_pos (isSome_entry_put hsome e)]
      exact h
    · cases h
  · cases h

/-- A walk leads to the same place if an entry is put where no directory is. -/
theorem follow_put (htarget : t.entry target ≠ some .directory) (e : Entry) {names : List String}
    (h : t.follow place names = .ok place') : (t.put target e).follow place names = .ok place' := by
  induction names generalizing place with
  | nil => exact h
  | cons name names ih =>
    rw [follow] at h
    rcases hstep : t.step place name with cause | next
    · rw [hstep] at h
      cases h
    · rw [hstep] at h
      rw [follow, step_put htarget e hstep]
      exact ih h

/-- A walk may be taken in two parts. -/
theorem follow_concat {names : List String} {name : String} (h : t.follow place names = .ok place') :
    t.follow place (names ++ [name]) = t.step place' name := by
  induction names generalizing place with
  | nil =>
    cases h
    exact bind_pure (t.step place' name)
  | cons first names ih =>
    rw [follow] at h
    rw [List.cons_append, follow]
    rcases hstep : t.step place first with cause | next
    · rw [hstep] at h
      cases h
    · rw [hstep] at h
      exact ih h

/-- Whether a name can be that of a file: it leads on from a directory, and is not too long. -/
structure IsFileName (name : String) : Prop where
  ne_empty : name ≠ ""
  ne_here : name ≠ "."
  ne_up : name ≠ ".."
  length_le : name.utf8ByteSize ≤ maxNameLength

theorem step_put_self {above : List String} {name : String}
    (hplace : t.atPlace (.inside above) = some .directory) (hname : IsFileName name)
    (htarget : t.entry (above ++ [name]) ≠ some .directory) (e : Entry) :
    (t.put (above ++ [name]) e).step (.inside above) name = .ok (.inside (above ++ [name])) := by
  rw [step.eq_def, atPlace_put htarget e hplace]
  simp [hname.ne_empty, hname.ne_here, hname.ne_up, entry_put_self, hname.length_le]

theorem atPlace_put_self (t : FileTree) (above : List String) (name : String) (e : Entry) :
    (t.put (above ++ [name]) e).atPlace (.inside (above ++ [name])) = some e := by
  rw [atPlace, entry_put_self]
  simp

/-- Names end with their last one, unless that is empty for want of any. -/
theorem dropLast_concat_last {names : List String} (h : names.getLast?.getD "" ≠ "") :
    names.dropLast ++ [names.getLast?.getD ""] = names := by
  cases hlast : names.getLast? with
  | none =>
    rw [hlast] at h
    exact absurd rfl h
  | some last => exact List.dropLast_append_getLast? last hlast

/-- A write that succeeds has found the directory of a file name, where no directory has that name, and
puts the text there. -/
theorem exists_of_write {path text : String} (h : t.write path text = .ok t') :
    ∃ start names name above, split path = .ok (start, names ++ [name]) ∧
      t.follow start names = .ok (.inside above) ∧ t.atPlace (.inside above) = some .directory ∧
      IsFileName name ∧ t.entry (above ++ [name]) ≠ some .directory ∧
      t' = t.put (above ++ [name]) (.file text.toUTF8.data.toList) := by
  rw [write] at h
  rcases hsplit : split path with cause | ⟨start, all⟩
  · rw [hsplit] at h
    cases h
  rw [hsplit] at h
  simp only [bind, Except.bind] at h
  split at h
  · cases h
  next directory hfollow =>
  split at h
  · cases h
  next hplace =>
  split at h
  · cases h
  next hlast =>
  split at h
  · cases h
  next hlength =>
  split at h
  · cases h
  next above =>
  split at h
  · cases h
  next htarget =>
  -- The names without the empty ones at the end are all of them, so the last name is that of a file.
  simp only [not_or, Decidable.not_not] at hlast
  obtain ⟨hall, hne, hhere, hup⟩ := hlast
  rw [hall] at hfollow hne hhere hup hlength htarget h
  refine ⟨start, all.dropLast, all.getLast?.getD "", above, ?_, hfollow, Decidable.not_not.mp hplace,
    ⟨hne, hhere, hup, Nat.le_of_not_lt hlength⟩, htarget, (Except.ok.inj h).symm⟩
  rw [dropLast_concat_last hne]

/-- What is written to a path is read from it. -/
theorem read_of_write {path text : String} (h : t.write path text = .ok t') :
    t'.read path = .ok text := by
  obtain ⟨start, names, name, above, hsplit, hfollow, hplace, hname, htarget, rfl⟩ := exists_of_write h
  have hwalk : (t.put (above ++ [name]) (.file text.toUTF8.data.toList)).follow start
      (names ++ [name]) = .ok (.inside (above ++ [name])) := by
    rw [follow_concat (follow_put htarget _ hfollow), step_put_self hplace hname htarget]
  have hbytes : (t.put (above ++ [name]) (.file text.toUTF8.data.toList)).readBytes path =
      .ok text.toUTF8.data.toList := by
    rw [readBytes, hsplit]
    simp only [bind, Except.bind, hwalk, atPlace_put_self]
  have htext : String.fromUTF8? (ByteArray.mk text.toUTF8.data.toList.toArray) = some text := by
    rw [Array.toArray_toList]
    exact dif_pos text.isValidUTF8
  rw [read, hbytes]
  simp only [bind, Except.bind, htext]

/-! ### Runs over a tree -/

/-- What a run over a tree comes to, and the tree that it leaves. -/
def observe {α : Type} (t : FileTree) (run : StateM FileTree α) : α × FileTree := run.run t

theorem observe_bind {α β : Type} (t : FileTree) (run : StateM FileTree α)
    (next : α → StateM FileTree β) :
    t.observe (run >>= next) = (t.observe run).2.observe (next (t.observe run).1) := rfl

theorem observe_read (t : FileTree) (path : String) :
    t.observe (FileAccess.read path) = (t.read path, t) := rfl

/-- A run that writes a file leaves the tree with the file, or as it is if the file cannot be written. -/
theorem observe_write (t : FileTree) (path text : String) :
    t.observe (FileAccess.write path text) =
      match t.write path text with
      | .ok after => (.ok (), after)
      | .error cause => (.error cause, t) := by
  have hrun : t.observe (FileAccess.write path text) =
      t.observe (match t.write path text with
        | .ok after => do set after; return .ok ()
        | .error cause => return .error cause) := rfl
  rw [hrun]
  cases t.write path text <;> rfl

end HostDns.FileTree
