import HostDns.Text.Blank
import Mathlib.Data.List.Forall2
import Mathlib.Data.List.TakeWhile

/-!
How texts fall into lines and tokens.

A token is a longest run of characters that are not blank, so a token that is known in front of a
blank can be split off; what holds of runs does not depend on the kind of characters. Lines are read
from the front in the same way; a text that goes on behind a line feed keeps its lines, up to a
carriage return that the line feed takes with it.
-/

namespace HostDns.Text

/-! ### Runs of characters -/

/-- Whether a run of characters that satisfy `p` ends before the text. -/
def Stops (p : Char → Bool) (s : List Char) : Prop := ∀ c ∈ s.head?, p c = false

theorem takeWhile_run {p : Char → Bool} {run rest : List Char} (hrun : ∀ c ∈ run, p c = true)
    (hrest : Stops p rest) : (run ++ rest).takeWhile p = run := by
  rw [List.takeWhile_append_of_pos hrun]
  rcases rest with _ | ⟨c, rest⟩
  · rw [List.takeWhile_nil, List.append_nil]
  · rw [List.takeWhile_cons_of_neg (by simp [hrest c rfl]), List.append_nil]

theorem dropWhile_run {p : Char → Bool} {run rest : List Char} (hrun : ∀ c ∈ run, p c = true)
    (hrest : Stops p rest) : (run ++ rest).dropWhile p = rest := by
  rw [List.dropWhile_append_of_pos hrun]
  rcases rest with _ | ⟨c, rest⟩
  · rfl
  · rw [List.dropWhile_cons_of_neg (by simp [hrest c rfl])]

/-! ### Tokens -/

theorem tokens_cons_blank {c : Char} (h : isBlank c = true) : ∀ s, tokens (c :: s) = tokens s
  | [] => by simp [tokens, h]
  | d :: s => by rw [tokens, if_pos h]

/-- A character that is not blank opens a token, which lasts up to the next blank. -/
theorem tokens_cons {c : Char} (h : isBlank c = false) : ∀ s,
    tokens (c :: s) =
      (c :: s.takeWhile fun d => !isBlank d) :: tokens (s.dropWhile fun d => !isBlank d)
  | [] => by simp [tokens, h]
  | d :: s => by
    rw [tokens, if_neg (by simp [h])]
    by_cases hd : isBlank d = true
    · simp [hd]
    · rw [Bool.not_eq_true] at hd
      rw [if_neg (by simp [hd]), tokens_cons hd s]
      simp [hd]

/-- Whether a text is one token when it stands alone. -/
structure IsWord (word : List Char) : Prop where
  ne_nil : word ≠ []
  not_blank : ∀ c ∈ word, isBlank c = false

theorem isWord_of_all {word : List Char} (hne : word.isEmpty = false)
    (hall : word.all (fun c => !isBlank c) = true) : IsWord word :=
  ⟨by simpa using hne, by simpa using hall⟩

theorem IsWord.append {word word' : List Char} (h : IsWord word) (h' : IsWord word') :
    IsWord (word ++ word') :=
  ⟨List.append_ne_nil_of_left_ne_nil h.ne_nil _,
    List.forall_mem_append.mpr ⟨h.not_blank, h'.not_blank⟩⟩

/-- A word is the first token of a text where a blank or nothing follows it. -/
theorem IsWord.tokens_append {word : List Char} (h : IsWord word) {rest : List Char}
    (hrest : Stops (fun c => !isBlank c) rest) : tokens (word ++ rest) = word :: tokens rest := by
  rcases word with _ | ⟨c, word⟩
  · exact absurd rfl h.ne_nil
  obtain ⟨hc, hword⟩ := List.forall_mem_cons.mp h.not_blank
  have hrun : ∀ d ∈ word, (!isBlank d) = true := by simpa using hword
  rw [List.cons_append, tokens_cons hc, takeWhile_run hrun hrest, dropWhile_run hrun hrest]

theorem IsWord.tokens_eq {word : List Char} (h : IsWord word) : tokens word = [word] := by
  have hrest : Stops (fun c => !isBlank c) [] := fun _ hc => by cases hc
  simpa [tokens] using h.tokens_append hrest

theorem IsWord.newline_not_mem {word : List Char} (h : IsWord word) : '\n' ∉ word ∧ '\r' ∉ word :=
  ⟨fun hmem => absurd (h.not_blank _ hmem) (by decide),
    fun hmem => absurd (h.not_blank _ hmem) (by decide)⟩

/-- Two words with a space between them are the tokens of their line. -/
theorem IsWord.tokens_pair {word word' : List Char} (h : IsWord word) (h' : IsWord word') :
    tokens (word ++ ' ' :: word') = [word, word'] := by
  have hblank : Stops (fun c => !isBlank c) (' ' :: word') := fun c hc => by cases hc; rfl
  rw [h.tokens_append hblank, tokens_cons_blank rfl, h'.tokens_eq]

/-- Blanks around a word are cut off. -/
theorem IsWord.trim_append {word : List Char} (h : IsWord word) {before after : List Char}
    (hbefore : ∀ c ∈ before, isBlank c = true) (hafter : ∀ c ∈ after, isBlank c = true) :
    trim (before ++ word ++ after) = word := by
  have hstops : ∀ {w : List Char}, w ≠ [] → (∀ c ∈ w, isBlank c = false) → ∀ rest,
      Stops isBlank (w ++ rest) := by
    intro w hne hw rest c hc
    rcases w with _ | ⟨d, w⟩
    · exact absurd rfl hne
    · obtain rfl : d = c := Option.some.inj hc
      exact hw d List.mem_cons_self
  have hback : Stops isBlank word.reverse := by
    rw [← List.append_nil word.reverse]
    exact hstops (by simpa using h.ne_nil) (by simpa using h.not_blank) []
  rw [trim, List.append_assoc, dropWhile_run hbefore (hstops h.ne_nil h.not_blank after),
    List.reverse_append, dropWhile_run (by simpa using hafter) hback, List.reverse_reverse]

theorem isBlank_eq_false {c : Char} (h : '!'.toNat ≤ c.toNat ∧ c.toNat ≤ '~'.toNat) :
    isBlank c = false := by
  have hrange : 33 ≤ c.toNat ∧ c.toNat ≤ 126 := h
  simp only [isBlank, Bool.or_eq_false_iff, Bool.and_eq_false_iff, decide_eq_false_iff_not,
    beq_eq_false_iff_ne]
  omega

/-- Every token is a word. -/
theorem isWord_of_mem_tokens {word : List Char} : ∀ {s : List Char}, word ∈ tokens s → IsWord word
  | [], h => absurd h List.not_mem_nil
  | c :: s, h => by
    by_cases hc : isBlank c = true
    · rw [tokens_cons_blank hc] at h
      exact isWord_of_mem_tokens h
    · rw [Bool.not_eq_true] at hc
      rw [tokens_cons hc] at h
      rcases List.mem_cons.mp h with rfl | h
      · refine ⟨List.cons_ne_nil _ _, List.forall_mem_cons.mpr ⟨hc, fun d hd => ?_⟩⟩
        simpa using List.mem_takeWhile_imp hd
      · exact isWord_of_mem_tokens h
  termination_by s => s.length
  decreasing_by
    · exact Nat.lt_succ_self _
    · exact Nat.lt_succ_of_le (List.length_dropWhile_le _ _)

/-- A blank at the end changes no token. -/
theorem tokens_concat_blank {blank : Char} (hblank : isBlank blank = true) : ∀ s : List Char,
    tokens (s ++ [blank]) = tokens s
  | [] => tokens_cons_blank hblank []
  | [c] => by simp [tokens, hblank]
  | c :: d :: s => by
    have ih := tokens_concat_blank hblank (d :: s)
    rw [List.cons_append] at ih
    rw [List.cons_append, List.cons_append, tokens, tokens, ih]

/-! ### Lines -/

theorem lines_eq_nil_iff {s : List Char} : lines s = [] ↔ s = [] := by
  fun_cases lines s <;> simp_all

/-- A text without a line feed is one line. -/
theorem lines_of_line {line : List Char} (hne : line ≠ []) (hfeed : '\n' ∉ line) :
    lines line = [line] := by
  induction line with
  | nil => exact absurd rfl hne
  | cons c line ih =>
    rw [List.mem_cons, not_or] at hfeed
    rw [lines]
    · by_cases hline : line = []
      · rw [hline, lines]
      · rw [ih hline hfeed.2]
    · exact fun h => hfeed.1 h.symm
    · rintro rest rfl rfl
      exact hfeed.2 List.mem_cons_self

theorem IsWord.lines_pair {word word' : List Char} (h : IsWord word) (h' : IsWord word') :
    lines (word ++ ' ' :: word') = [word ++ ' ' :: word'] := by
  refine lines_of_line (List.append_ne_nil_of_left_ne_nil h.ne_nil _) ?_
  rw [List.mem_append, List.mem_cons, not_or, not_or]
  exact ⟨h.newline_not_mem.1, by decide, h'.newline_not_mem.1⟩

/-- A line feed ends the line before it. -/
theorem lines_append_newline {line : List Char} (hfeed : '\n' ∉ line) (hreturn : '\r' ∉ line)
    (rest : List Char) : lines (line ++ '\n' :: rest) = line :: lines rest := by
  induction line with
  | nil => rw [List.nil_append, lines]
  | cons c line ih =>
    rw [List.mem_cons, not_or] at hfeed hreturn
    rw [List.cons_append, lines, ih hfeed.2 hreturn.2]
    · exact fun h => hfeed.1 h.symm
    · exact fun _ h => absurd h.symm hreturn.1

/-- Lines that are each ended by a line feed are read back. -/
theorem lines_flatMap_newline : ∀ {ls : List (List Char)},
    (∀ line ∈ ls, '\n' ∉ line ∧ '\r' ∉ line) → lines (ls.flatMap fun line => line ++ ['\n']) = ls
  | [], _ => rfl
  | line :: ls, h => by
    obtain ⟨hfeed, hreturn⟩ := h line List.mem_cons_self
    have ih := lines_flatMap_newline fun l hl => h l (List.mem_cons_of_mem _ hl)
    rw [List.flatMap_cons, List.append_assoc, List.singleton_append,
      lines_append_newline hfeed hreturn, ih]

/-- A text that goes on behind a line feed keeps its lines; the line feed may take a carriage return
at the end of the last one with it. -/
theorem exists_lines_append_newline (after : List Char) (s : List Char) : ∃ ls more,
    lines (s ++ '\n' :: after) = ls ++ more ∧
      List.Forall₂ (fun line line' => line = line' ∨ line = line' ++ ['\r']) (lines s) ls := by
  fun_induction lines s with
  | case1 => exact ⟨[], lines ('\n' :: after), rfl, .nil⟩
  | case2 rest ih =>
    obtain ⟨ls, more, hlines, hsame⟩ := ih
    refine ⟨[] :: ls, more, ?_, .cons (Or.inl rfl) hsame⟩
    rw [List.cons_append, lines, hlines, List.cons_append]
  | case3 rest ih =>
    obtain ⟨ls, more, hlines, hsame⟩ := ih
    refine ⟨[] :: ls, more, ?_, .cons (Or.inl rfl) hsame⟩
    rw [List.cons_append, List.cons_append, lines, hlines, List.cons_append]
  | case4 c rest hfeed _ hnil =>
    obtain rfl := lines_eq_nil_iff.mp hnil
    by_cases hc : c = '\r'
    · -- the carriage return was the last line, and the line feed takes it
      subst hc
      exact ⟨[[]], lines after, rfl, .cons (Or.inr rfl) .nil⟩
    · refine ⟨[[c]], lines after, ?_, .cons (Or.inl rfl) .nil⟩
      have hfeed' : '\n' ∉ [c] := by simpa using Ne.symm hfeed
      have hreturn' : '\r' ∉ [c] := by simpa using Ne.symm hc
      exact lines_append_newline hfeed' hreturn' after
  | case5 c rest hfeed hreturn line more hcons ih =>
    obtain ⟨ls, more', hlines, hsame⟩ := ih
    rw [hcons] at hsame
    obtain ⟨line', ls', hline, hmore, rfl⟩ := List.forall₂_cons_left_iff.mp hsame
    refine ⟨(c :: line') :: ls', more', ?_, .cons ?_ hmore⟩
    · -- the rest has a line, so no line feed comes up behind `c`
      have hnext : ∀ next, c = '\r' → rest ++ '\n' :: after = '\n' :: next → False := by
        rcases rest with _ | ⟨d, rest⟩
        · rw [lines] at hcons; cases hcons
        · intro next hc h
          rw [List.cons_append, List.cons.injEq] at h
          exact hreturn rest hc (by rw [h.1])
      rw [List.cons_append, lines, hlines]
      · rfl
      · exact hfeed
      · exact hnext
    · rcases hline with rfl | rfl
      · exact Or.inl rfl
      · exact Or.inr (List.cons_append ..).symm

/-! ### Pieces around a separator -/

/-- A text is split at the first separator. -/
theorem splitFirst_append {sep : Char} {before : List Char} (h : sep ∉ before) (after : List Char) :
    splitFirst sep (before ++ sep :: after) = some (before, after) := by
  induction before with
  | nil => exact if_pos rfl
  | cons c before ih =>
    rw [List.mem_cons, not_or] at h
    rw [List.cons_append, splitFirst, if_neg (Ne.symm h.1), ih h.2]
    rfl

/-- Where a text is split at the first separator, none stands before it. -/
theorem splitFirst_eq_some_iff {sep : Char} {s before after : List Char} :
    splitFirst sep s = some (before, after) ↔ s = before ++ sep :: after ∧ sep ∉ before := by
  constructor
  · intro h
    induction s generalizing before with
    | nil => cases h
    | cons c s ih =>
      rw [splitFirst] at h
      split at h
      · next hc =>
        cases h
        exact ⟨by rw [hc, List.nil_append], List.not_mem_nil⟩
      · next hc =>
        rw [Option.map_eq_some_iff] at h
        obtain ⟨⟨before', after'⟩, hsplit, h⟩ := h
        cases h
        obtain ⟨rfl, hmem⟩ := ih hsplit
        exact ⟨rfl, List.not_mem_cons_of_ne_of_not_mem (Ne.symm hc) hmem⟩
  · rintro ⟨rfl, hmem⟩
    exact splitFirst_append hmem after

/-- A text is not split at the last separator exactly if it has none. -/
theorem splitLast_eq_none_iff {sep : Char} {s : List Char} :
    splitLast sep s = none ↔ sep ∉ s := by
  induction s with
  | nil => simp [splitLast]
  | cons c s ih =>
    rw [splitLast]
    rcases hsplit : splitLast sep s with _ | ⟨before, after⟩
    · have hmem : sep ∉ s := ih.mp hsplit
      simp [hmem, eq_comm]
    · have hmem : sep ∈ s := by
        by_contra hmem
        rw [ih.mpr hmem] at hsplit
        cases hsplit
      simp [hmem]

/-- Where a text is split at the last separator, none stands behind it. -/
theorem splitLast_eq_some_iff {sep : Char} {s before after : List Char} :
    splitLast sep s = some (before, after) ↔ s = before ++ sep :: after ∧ sep ∉ after := by
  constructor
  · intro h
    induction s generalizing before with
    | nil => cases h
    | cons c s ih =>
      rw [splitLast] at h
      rcases hsplit : splitLast sep s with _ | ⟨before', after'⟩
      · rw [hsplit, Option.ite_none_right_eq_some] at h
        obtain ⟨rfl, h⟩ := h
        cases h
        exact ⟨rfl, splitLast_eq_none_iff.mp hsplit⟩
      · rw [hsplit] at h
        cases h
        obtain ⟨rfl, hmem⟩ := ih hsplit
        exact ⟨rfl, hmem⟩
  · rintro ⟨rfl, hmem⟩
    induction before with
    | nil => rw [List.nil_append, splitLast, splitLast_eq_none_iff.mpr hmem, if_pos rfl]
    | cons c before ih => rw [List.cons_append, splitLast, ih]

end HostDns.Text
