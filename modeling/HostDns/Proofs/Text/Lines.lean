import HostDns.Proofs.Text.Numeral
import HostDns.Text.Lines
import Mathlib.Data.String.Basic

/-!
Texts that are made of lines, and blocks of lines.

A text that was made of lines is cut into them again at its line feeds, unless a line has one of its own.
Blocks of lines with an empty line between any two are cut apart again at the empty lines, unless a block
has one of its own.
-/

namespace HostDns.Text

/-! ### Strings on one line -/

/-- Whether a string keeps to one line. -/
def IsLine (s : String) : Prop := '\n' ∉ s.toList

instance (s : String) : Decidable (IsLine s) := inferInstanceAs (Decidable ('\n' ∉ s.toList))

theorem IsLine.append {s t : String} (hs : IsLine s) (ht : IsLine t) : IsLine (s ++ t) := by
  rw [IsLine, String.toList_append, List.mem_append, not_or]
  exact ⟨hs, ht⟩

theorem IsWord.isLine {word : List Char} (h : IsWord word) : IsLine (String.ofList word) := by
  rw [IsLine, String.toList_ofList]
  exact h.newline_not_mem.1

theorem isLine_toString (n : Nat) : IsLine (toString n) := by
  have hchars : (toString n).toList = decimal n := by simp [decimal]
  rw [IsLine, hchars]
  exact (isWord_decimal n).newline_not_mem.1

/-! ### Lines of a text -/

/-- The lines of a text that a line feed ends. -/
def endedLines (text : String) : List String :=
  ((text.toList.splitOn '\n').dropLast).map String.ofList

theorem toList_unlines (lines : List String) :
    (unlines lines).toList = lines.flatMap fun line => line.toList ++ ['\n'] := by
  rw [unlines, String.toList_join, List.flatMap_map]
  simp

theorem unlines_cons (line : String) (lines : List String) :
    unlines (line :: lines) = line ++ "\n" ++ unlines lines := by
  rw [← String.toList_inj, toList_unlines, List.flatMap_cons, ← toList_unlines]
  simp

theorem toList_unlines_cons (line : String) (lines : List String) :
    (unlines (line :: lines)).toList = line.toList ++ '\n' :: (unlines lines).toList := by
  simp [unlines_cons]

theorem length_le_length_unlines (lines : List String) :
    lines.length ≤ (unlines lines).toList.length := by
  induction lines with
  | nil => exact Nat.zero_le _
  | cons line lines ih =>
    rw [toList_unlines_cons, List.length_append, List.length_cons, List.length_cons]
    omega

theorem unlines_append (lines more : List String) :
    unlines (lines ++ more) = unlines lines ++ unlines more := by
  rw [← String.toList_inj, toList_unlines, List.flatMap_append, ← toList_unlines, ← toList_unlines,
    String.toList_append]

/-- Lines are cut at the line feeds that end them, and nothing is behind the last one. -/
theorem splitOn_unlines {lines : List String} (h : ∀ line ∈ lines, IsLine line) :
    (unlines lines).toList.splitOn '\n' = lines.map String.toList ++ [[]] := by
  induction lines with
  | nil => rfl
  | cons line lines ih =>
    obtain ⟨hline, hlines⟩ := List.forall_mem_cons.mp h
    have hcut : (line.toList ++ '\n' :: (unlines lines).toList).splitOn '\n' =
        line.toList.splitOn '\n' ++ (unlines lines).toList.splitOn '\n' := by
      simp [List.splitOn_eq_splitOnP, List.splitOnP_append_cons]
    rw [toList_unlines_cons, hcut, List.splitOn_eq_singleton hline, ih hlines, List.map_cons,
      List.singleton_append, List.cons_append]

/-- Lines without a line feed of their own are read back. -/
theorem endedLines_unlines {lines : List String} (h : ∀ line ∈ lines, IsLine line) :
    endedLines (unlines lines) = lines := by
  rw [endedLines, splitOn_unlines h, List.dropLast_concat, List.map_map]
  simp

/-! ### Blocks of lines -/

/-- Blocks of lines with a line feed between any two have an empty line there. -/
theorem intercalate_unlines (blocks : List (List String)) :
    "\n".intercalate (blocks.map unlines) = unlines ([""].intercalate blocks) := by
  induction blocks with
  | nil => rfl
  | cons block blocks ih =>
    rcases blocks with _ | ⟨next, blocks⟩
    · simp
    · rw [List.map_cons, List.map_cons, String.intercalate_cons_cons, ← List.map_cons, ih,
        List.intercalate_cons_cons, unlines_append, unlines_append]
      rfl

/-- Lines of blocks that keep to one line each do so with empty lines between the blocks. -/
theorem isLine_of_mem_intercalate {blocks : List (List String)}
    (h : ∀ block ∈ blocks, ∀ line ∈ block, IsLine line) :
    ∀ line ∈ [""].intercalate blocks, IsLine line := by
  induction blocks with
  | nil => nofun
  | cons block blocks ih =>
    obtain ⟨hblock, hblocks⟩ := List.forall_mem_cons.mp h
    rcases blocks with _ | ⟨next, blocks⟩
    · rw [List.intercalate_singleton]
      exact hblock
    · have hempty : ∀ line ∈ [""], IsLine line := by decide
      rw [List.intercalate_cons_cons]
      exact List.forall_mem_append.mpr ⟨List.forall_mem_append.mpr ⟨hblock, hempty⟩, ih hblocks⟩

/-- One empty line stands between any two blocks that have none of their own. -/
theorem count_intercalate_empty {blocks : List (List String)} (h : ∀ block ∈ blocks, "" ∉ block) :
    ([""].intercalate blocks).count "" = blocks.length - 1 := by
  induction blocks with
  | nil => rfl
  | cons block blocks ih =>
    obtain ⟨hblock, hblocks⟩ := List.forall_mem_cons.mp h
    rcases blocks with _ | ⟨next, blocks⟩
    · simpa using List.count_eq_zero.mpr hblock
    · rw [List.intercalate_cons_cons, List.count_append, List.count_append, ih hblocks,
        List.count_eq_zero.mpr hblock]
      simp
      omega

end HostDns.Text
