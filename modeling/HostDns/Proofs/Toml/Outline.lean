import HostDns.Proofs.Text.Lines
import HostDns.Toml.Reader
import HostDns.Toml.Record

/-!
Documents that name tables and leave them empty.

Such a document is an outline: each of its lines says nothing or is a header with one bare word. A reader
passes over a line that says nothing, whatever a comment holds, and takes a header for the statement that
opens a table. So what is read of an outline depends on its headers alone, and a record that is read of it
has all its defaults.
-/

namespace HostDns.Toml

open Text

/-- Whether a line says nothing: it is empty, or a comment takes all of it. -/
def isSilent (line : String) : Bool :=
  match line.toList with
  | [] => true
  | c :: rest => c = '#' && rest.all isPlain

/-- Whether characters are a key without quotes. -/
def isBareKey (chars : List Char) : Bool := !chars.isEmpty && chars.all isBareKeyChar

/-- The key that a line opens a table under, if the line is a header with one bare word. -/
def heading? (line : String) : Option String :=
  match line.toList with
  | '[' :: rest =>
    if rest.getLast? = some ']' ∧ isBareKey rest.dropLast then some (String.ofList rest.dropLast)
    else none
  | _ => none

/-- The keys that the headers of an outline open tables under. -/
def headings (lines : List String) : List String := lines.filterMap heading?

/-- Whether lines are an outline. -/
def IsOutline (lines : List String) : Prop :=
  ∀ line ∈ lines, isSilent line = true ∨ (heading? line).isSome = true

instance (lines : List String) : Decidable (IsOutline lines) :=
  inferInstanceAs (Decidable (∀ line ∈ lines, isSilent line = true ∨ (heading? line).isSome = true))

/-- A table that a header opens. -/
def emptyTable (name : String) : String × Value := (name, .table .header [])

/-! ### Lines that say nothing -/

/-- A comment is passed over to the end of its line. -/
theorem skipTrivia_comment {comment : List Char} (h : comment.all isPlain = true) (rest : List Char) :
    skipTrivia true (comment ++ '\n' :: rest) = skipTrivia false rest := by
  induction comment with
  | nil => rw [List.nil_append, skipTrivia]
  | cons c comment ih =>
    rw [List.all_cons, Bool.and_eq_true] at h
    obtain ⟨hc, hcomment⟩ := h
    have hfeed : c ≠ '\n' := ne_of_apply_ne isPlain (by rw [hc]; decide)
    have hreturn : c ≠ '\r' := ne_of_apply_ne isPlain (by rw [hc]; decide)
    rw [List.cons_append, skipTrivia, if_pos hc, ih hcomment]
    · exact hfeed
    · rintro _ hc _
      exact hreturn hc

/-- A line that says nothing is passed over. -/
theorem skipTrivia_silent {line : String} (h : isSilent line = true) (rest : List Char) :
    skipTrivia false (line.toList ++ '\n' :: rest) = skipTrivia false rest := by
  rw [isSilent] at h
  split at h
  · next hline => rw [hline, List.nil_append, skipTrivia]
  · next c comment hline =>
    rw [Bool.and_eq_true, decide_eq_true_eq] at h
    obtain ⟨rfl, hcomment⟩ := h
    rw [hline, List.cons_append, ← skipTrivia_comment hcomment rest]
    simp [skipTrivia, isGap]

theorem readStatements_congr {s s' : List Char} (h : skipTrivia false s = skipTrivia false s')
    (fuel : Nat) : readStatements fuel s = readStatements fuel s' := by
  cases fuel with
  | zero => rfl
  | succ fuel => rw [readStatements, readStatements, h]

/-! ### Headers -/

/-- A header is a bare word in brackets. -/
theorem toList_of_heading? {line name : String} (h : heading? line = some name) :
    ∃ chars, isBareKey chars = true ∧ line.toList = '[' :: (chars ++ [']']) ∧
      name = String.ofList chars := by
  rw [heading?] at h
  split at h
  · next rest hline =>
    split at h
    · next hrest =>
      refine ⟨rest.dropLast, hrest.2, ?_, (Option.some.inj h).symm⟩
      rw [hline, List.dropLast_append_getLast? ']' hrest.1]
    · cases h
  · cases h

/-- The first character of a bare word, which is none that has a meaning of its own. -/
theorem exists_cons_of_isBareKey {chars : List Char} (h : isBareKey chars = true) :
    ∃ c rest, chars = c :: rest ∧ ∀ d, isBareKeyChar d = false → c ≠ d := by
  rw [isBareKey, Bool.and_eq_true] at h
  rcases chars with _ | ⟨c, rest⟩
  · cases h.1
  · refine ⟨c, rest, rfl, ?_⟩
    rintro d hd rfl
    rw [List.all_cons, hd] at h
    cases h.2

/-- A bare word is a key of one step if a bracket follows it. -/
theorem readKey_bare {chars : List Char} (h : isBareKey chars = true) (rest : List Char) (fuel : Nat) :
    readKey (fuel + 1) (chars ++ ']' :: rest) = .ok (⟨[], String.ofList chars⟩, ']' :: rest) := by
  have hall : ∀ c ∈ chars, isBareKeyChar c = true :=
    List.all_eq_true.mp (Bool.and_eq_true_iff.mp h).2
  have hword : (chars ++ ']' :: rest).takeWhile isBareKeyChar = chars := by
    rw [List.takeWhile_append_of_pos hall, List.takeWhile_cons_of_neg (by decide), List.append_nil]
  have hrest : (chars ++ ']' :: rest).dropWhile isBareKeyChar = ']' :: rest := by
    rw [List.dropWhile_append_of_pos hall, List.dropWhile_cons_of_neg (by decide)]
  have hkey : simpleKey (chars ++ ']' :: rest) = .ok (String.ofList chars, ']' :: rest) := by
    obtain ⟨c, tail, rfl, hc⟩ := exists_cons_of_isBareKey h
    rw [simpleKey, hword, hrest]
    · rintro _ ⟨⟩
      exact hc _ (by decide) rfl
    · rintro _ ⟨⟩
      exact hc _ (by decide) rfl
  rw [readKey, hkey]
  rfl

/-- A header is the statement that opens a table. -/
theorem readStatement_heading {line name : String} (h : heading? line = some name) (rest : List Char) :
    readStatement (line.toList ++ rest) = .ok (.table ⟨[], name⟩, rest) := by
  obtain ⟨chars, hchars, hline, rfl⟩ := toList_of_heading? h
  have hheader : readHeader 1 (chars ++ ']' :: rest) = .ok (⟨[], String.ofList chars⟩, rest) := by
    have hgaps : skipGaps (chars ++ ']' :: rest) = chars ++ ']' :: rest := by
      obtain ⟨c, tail, rfl, hc⟩ := exists_cons_of_isBareKey hchars
      refine List.dropWhile_cons_of_neg ?_
      simp [isGap, hc ' ' (by decide), hc '\t' (by decide)]
    rw [readHeader, hgaps, readKey_bare hchars]
    rfl
  rw [hline, List.cons_append, List.append_assoc, List.singleton_append, readStatement]
  · rw [hheader]
    rfl
  · obtain ⟨c, tail, rfl, hc⟩ := exists_cons_of_isBareKey hchars
    rintro _ ⟨⟩
    exact hc _ (by decide) rfl

/-- The line of a header gives one statement, in front of those that follow. -/
theorem readStatements_heading {line name : String} (h : heading? line = some name) (rest : List Char)
    (fuel : Nat) : readStatements (fuel + 1) (line.toList ++ '\n' :: rest) =
      (readStatements fuel rest).map (.table ⟨[], name⟩ :: ·) := by
  have hstatement := readStatement_heading h ('\n' :: rest)
  obtain ⟨chars, -, hline, -⟩ := toList_of_heading? h
  have htrivia : skipTrivia false (line.toList ++ '\n' :: rest) =
      .ok (line.toList ++ '\n' :: rest) := by
    rw [hline]
    rfl
  have hend : endLine ('\n' :: rest) = .ok rest := rfl
  rw [readStatements, htrivia]
  simp only [bind, Except.bind]
  split
  · next hnil =>
    rw [hline] at hnil
    cases hnil
  · rw [hstatement]
    simp only [hend]
    cases readStatements fuel rest <;> rfl

/-! ### Outlines -/

/-- The statements of an outline are those of its headers. -/
theorem readStatements_outline {lines : List String} (h : IsOutline lines) {fuel : Nat}
    (hfuel : (headings lines).length < fuel) :
    readStatements fuel (unlines lines).toList =
      .ok ((headings lines).map fun name => .table ⟨[], name⟩) := by
  obtain ⟨fuel, rfl⟩ := Nat.exists_eq_add_one_of_ne_zero (Nat.ne_zero_of_lt hfuel)
  induction lines generalizing fuel with
  | nil => rfl
  | cons line lines ih =>
    obtain ⟨hline, hlines⟩ := List.forall_mem_cons.mp h
    rw [toList_unlines_cons]
    cases hheading : heading? line with
    | none =>
      -- A line that says nothing is passed over together with what follows it, without any fuel.
      rw [hheading] at hline
      have hsilent := hline.resolve_right nofun
      rw [headings, List.filterMap_cons_none hheading] at hfuel ⊢
      rw [readStatements_congr (skipTrivia_silent hsilent _)]
      exact ih hlines fuel hfuel
    | some name =>
      rw [headings, List.filterMap_cons_some hheading, List.length_cons] at hfuel
      have hleft : (headings lines).length < fuel := Nat.lt_of_succ_lt_succ hfuel
      obtain ⟨fuel, rfl⟩ := Nat.exists_eq_add_one_of_ne_zero (Nat.ne_zero_of_lt hleft)
      rw [headings, List.filterMap_cons_some hheading, readStatements_heading hheading,
        ih hlines fuel hleft]
      rfl

theorem apply_heading {root : Entries} {name : String} (h : root.lookup name = none)
    (header : List String) : Draft.apply ⟨root, header⟩ (.table ⟨[], name⟩) =
      .ok ⟨root ++ [emptyTable name], [name]⟩ := by
  have hopen : Entries.openTable name root = .ok (root ++ [emptyTable name]) := by
    rw [Entries.openTable, h]
    rfl
  rw [Draft.apply, Entries.atHeader, hopen]
  rfl

/-- Headers with different names open an empty table each, behind those of other names. -/
theorem foldlM_apply_headings {root : Entries} {names : List String} (h : names.Nodup)
    (hnew : ∀ name ∈ names, root.lookup name = none) (header : List String) :
    ∃ header', (names.map fun name => Statement.table ⟨[], name⟩).foldlM Draft.apply ⟨root, header⟩ =
      .ok ⟨root ++ names.map emptyTable, header'⟩ := by
  -- A header with one word starts from the root, so the header in force before it may be any.
  induction names generalizing root header with
  | nil => exact ⟨header, by simp [pure, Except.pure]⟩
  | cons name names ih =>
    obtain ⟨hname, hnames⟩ := List.nodup_cons.mp h
    have hnext : ∀ other ∈ names, (root ++ [emptyTable name]).lookup other = none := by
      intro other hother
      have hne : other ≠ name := by
        rintro rfl
        exact hname hother
      simp [List.lookup_append, hnew other (List.mem_cons_of_mem _ hother), emptyTable, hne]
    obtain ⟨header', hrun⟩ := ih hnames hnext [name]
    refine ⟨header', ?_⟩
    rw [List.map_cons, List.foldlM_cons, apply_heading (hnew name List.mem_cons_self) header]
    rw [List.append_assoc] at hrun
    exact hrun

theorem ofStatements_headings {names : List String} (h : names.Nodup) :
    Entries.ofStatements (names.map fun name => .table ⟨[], name⟩) = .ok (names.map emptyTable) := by
  obtain ⟨header, hrun⟩ := @foldlM_apply_headings [] names h (fun _ _ => rfl) []
  rw [Entries.ofStatements, Draft.start, hrun]
  rfl

/-- An outline has no byte order mark. -/
theorem withoutMark_outline {lines : List String} (h : IsOutline lines) :
    withoutMark (unlines lines).toList = (unlines lines).toList := by
  rcases lines with _ | ⟨line, lines⟩
  · rfl
  rw [toList_unlines_cons]
  rcases h line List.mem_cons_self with hsilent | hheading
  · rw [isSilent] at hsilent
    split at hsilent
    · next hline =>
      rw [hline]
      rfl
    · next c comment hline =>
      rw [Bool.and_eq_true, decide_eq_true_eq] at hsilent
      rw [hline, hsilent.1]
      rfl
  · obtain ⟨name, hname⟩ := Option.isSome_iff_exists.mp hheading
    obtain ⟨chars, -, hline, -⟩ := toList_of_heading? hname
    rw [hline]
    rfl

/-- An outline whose headers have different names gives an empty table for each of them. -/
theorem ofString_outline {lines : List String} (h : IsOutline lines) (hnames : (headings lines).Nodup) :
    Entries.ofString (unlines lines) = .ok ((headings lines).map emptyTable) := by
  have hfuel : (headings lines).length < (unlines lines).toList.length + 1 :=
    Nat.lt_succ_of_le ((List.length_filterMap_le _ _).trans (length_le_length_unlines lines))
  rw [Entries.ofString, withoutMark_outline h]
  simp only [readStatements_outline h hfuel, bind, Except.bind]
  exact ofStatements_headings hnames

/-! ### Records of empty tables -/

theorem Entries.withKeys_emptyTables {keys names : List String} (h : ∀ name ∈ names, name ∈ keys) :
    Entries.withKeys keys (names.map emptyTable) = .ok (names.map emptyTable) := by
  rw [withKeys, List.find?_eq_none.mpr]
  intro entry hentry
  obtain ⟨name, hname, rfl⟩ := List.mem_map.mp hentry
  simp [emptyTable, h name hname]

/-- Of empty tables each key reads as its default. -/
theorem Entries.orElse_emptyTables {α : Type} {read : Value → Except TomlError α} {default : α}
    (h : read (.table .header []) = .ok default) (names : List String) (key : String) :
    Entries.orElse (names.map emptyTable) key read default = .ok default := by
  rw [orElse, optional]
  cases hlookup : (names.map emptyTable).lookup key with
  | none => rfl
  | some value =>
    obtain ⟨before, after, hentries, -⟩ := List.lookup_eq_some_iff.mp hlookup
    have hmem : (key, value) ∈ names.map emptyTable := by simp [hentries]
    obtain ⟨name, -, hname⟩ := List.mem_map.mp hmem
    cases hname
    simp only [h]
    rfl

end HostDns.Toml
