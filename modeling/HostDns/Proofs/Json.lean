import HostDns.Json
import HostDns.Proofs.Text.Numeral

/-!
Written documents are told apart.

A document may stand in front of any text that does not go on with a number. Its first character says
what it is, and its parts come one after the other, so two documents with the same text, whatever
follows each of them, are the same, and so is what follows. That is shown for the compact form by
induction on the documents. The pretty form is the compact one with blanks between its parts, none of
which stands in a string.
-/

namespace HostDns.Json

open Text (Stops)

/-! ### Strings -/

/-- The character that one behind a backslash stands for. -/
def escaped (d : Char) : Char :=
  if d = 'n' then '\n'
  else if d = 'r' then '\r'
  else if d = 't' then '\t'
  else if d = 'b' then Char.ofNat 8
  else if d = 'f' then Char.ofNat 12
  else d

/-- What a character is written as in a string: one that stands for it behind a backslash, its number
behind `\u`, or itself. -/
theorem escape_cases (c : Char) :
    (∃ d, escape c = ['\\', d] ∧ d ≠ 'u' ∧ escaped d = c) ∨
      escape c = '\\' :: 'u' :: Text.zeroPadded 4 (Text.hexadecimal c.toNat) ∧ c.toNat < 32 ∨
      escape c = [c] ∧ c ≠ '"' ∧ c ≠ '\\' := by
  have hcode : ∀ {n : Nat}, c.toNat = n → Char.ofNat n = c := fun h => h ▸ Char.ofNat_toNat c
  rw [escape]
  split
  · next h => exact Or.inl ⟨'"', rfl, by decide, h.symm⟩
  split
  · next h => exact Or.inl ⟨'\\', rfl, by decide, h.symm⟩
  split
  · next h => exact Or.inl ⟨'n', rfl, by decide, h.symm⟩
  split
  · next h => exact Or.inl ⟨'r', rfl, by decide, h.symm⟩
  split
  · next h => exact Or.inl ⟨'t', rfl, by decide, h.symm⟩
  split
  · next h => exact Or.inl ⟨'b', rfl, by decide, hcode h⟩
  split
  · next h => exact Or.inl ⟨'f', rfl, by decide, hcode h⟩
  split
  · next h => exact Or.inr (Or.inl ⟨rfl, h⟩)
  · next hquote hslash _ _ _ _ _ _ => exact Or.inr (Or.inr ⟨rfl, hquote, hslash⟩)

/-- The first character of a string and what stands behind it. -/
def unescape : List Char → Option (Char × List Char)
  | [] => none
  | c :: rest =>
    if c = '\\' then
      match rest with
      | [] => none
      | d :: rest =>
        if d = 'u' then some (Char.ofNat (Text.hexValue (rest.take 4)), rest.drop 4)
        else some (escaped d, rest)
    else some (c, rest)

/-- A character in a string is read back. -/
theorem unescape_escape (c : Char) (rest : List Char) :
    unescape (escape c ++ rest) = some (c, rest) := by
  rcases escape_cases c with ⟨d, hd, hu, hc⟩ | ⟨hu, hlt⟩ | ⟨hself, _, hslash⟩
  · rw [hd]
    simp [unescape, hu, hc]
  · have hlength : (Text.zeroPadded 4 (Text.hexadecimal c.toNat)).length = 4 :=
      Text.length_zeroPadded_hexadecimal (by decide) (hlt.trans (by decide))
    rw [hu]
    simp [unescape, List.take_left' hlength, List.drop_left' hlength, Text.hexValue_zeroPadded,
      Text.hexValue_hexadecimal]
  · rw [hself]
    simp [unescape, hslash]

/-- A character in a string is told apart from what stands behind it. -/
theorem escape_append_inj {c c' : Char} {rest rest' : List Char}
    (h : escape c ++ rest = escape c' ++ rest') : c = c' ∧ rest = rest' := by
  have hread := unescape_escape c rest
  rw [h, unescape_escape, Option.some.injEq, Prod.mk.injEq] at hread
  exact ⟨hread.1.symm, hread.2.symm⟩

theorem escape_append_ne_quote (c : Char) (rest rest' : List Char) :
    escape c ++ rest ≠ '"' :: rest' := by
  rcases escape_cases c with ⟨d, hd, _, _⟩ | ⟨hu, _⟩ | ⟨hself, hquote, _⟩
  · simp [hd]
  · simp [hu]
  · simp [hself, hquote]

/-- The characters of a string are told apart from what stands behind the quote after them. -/
theorem flatMap_escape_append_inj {rest rest' : List Char} : ∀ {s s' : List Char},
    s.flatMap escape ++ '"' :: rest = s'.flatMap escape ++ '"' :: rest' → s = s' ∧ rest = rest'
  | [], [], h => ⟨rfl, (List.cons.inj h).2⟩
  | [], c' :: s', h => by
    rw [List.flatMap_cons, List.append_assoc] at h
    exact absurd h.symm (escape_append_ne_quote c' _ _)
  | c :: s, [], h => by
    rw [List.flatMap_cons, List.append_assoc] at h
    exact absurd h (escape_append_ne_quote c _ _)
  | c :: s, c' :: s', h => by
    rw [List.flatMap_cons, List.flatMap_cons, List.append_assoc, List.append_assoc] at h
    obtain ⟨hc, hrest⟩ := escape_append_inj h
    obtain ⟨hs, hend⟩ := flatMap_escape_append_inj hrest
    exact ⟨by rw [hc, hs], hend⟩

theorem quote_append (s : String) (rest : List Char) :
    quote s ++ rest = '"' :: (s.toList.flatMap escape ++ '"' :: rest) := by simp [quote]

theorem quote_append_inj {s s' : String} {rest rest' : List Char}
    (h : quote s ++ rest = quote s' ++ rest') : s = s' ∧ rest = rest' := by
  rw [quote_append, quote_append, List.cons.injEq] at h
  obtain ⟨hs, hrest⟩ := flatMap_escape_append_inj h.2
  exact ⟨String.toList_inj.mp hs, hrest⟩

/-! ### Numbers -/

/-- A number is told apart from what stands behind it where that is no digit. -/
theorem integer_append_inj {m n : Int} {rest rest' : List Char} (hrest : Stops Char.isDigit rest)
    (hrest' : Stops Char.isDigit rest') (h : integer m ++ rest = integer n ++ rest') :
    m = n ∧ rest = rest' := by
  have hsign : ∀ (k : Nat) (t t' : List Char), Text.decimal k ++ t ≠ '-' :: t' := by
    intro k t t' heq
    obtain ⟨d, ds, hd, hdigit⟩ := Text.exists_decimal_eq_cons k
    rw [hd, List.cons_append, List.cons.injEq] at heq
    rw [heq.1] at hdigit
    cases hdigit
  cases m with
  | ofNat m =>
    cases n with
    | ofNat n =>
      obtain ⟨rfl, hrest⟩ := Text.decimal_append_inj hrest hrest' h
      exact ⟨rfl, hrest⟩
    | negSucc n => exact absurd h (hsign m _ _)
  | negSucc m =>
    cases n with
    | ofNat n => exact absurd h.symm (hsign n _ _)
    | negSucc n =>
      obtain ⟨hsucc, hrest⟩ := Text.decimal_append_inj hrest hrest' (List.cons.inj h).2
      exact ⟨congrArg Int.negSucc (Nat.succ.inj hsucc), hrest⟩

/-! ### The compact form -/

/-- The character that a document starts with, where a digit stands for every start of a number. -/
def opening : Json → Char
  | .null => 'n'
  | .bool true => 't'
  | .bool false => 'f'
  | .int _ => '0'
  | .str _ => '"'
  | .arr _ => '['
  | .obj _ => '\x7b'

/-- What a first character says about the document. -/
def openingOf (c : Char) : Char := if c.isDigit ∨ c = '-' then '0' else c

/-- A document starts with its opening character. -/
theorem exists_compact_eq_cons (j : Json) : ∃ c s, j.compact = c :: s ∧ openingOf c = j.opening := by
  cases j with
  | null => exact ⟨_, _, rfl, rfl⟩
  | bool b => cases b <;> exact ⟨_, _, rfl, rfl⟩
  | int n =>
    cases n with
    | ofNat n =>
      obtain ⟨d, ds, hd, hdigit⟩ := Text.exists_decimal_eq_cons n
      exact ⟨d, ds, hd, if_pos (Or.inl hdigit)⟩
    | negSucc n => exact ⟨_, _, rfl, rfl⟩
  | str s => exact ⟨_, _, rfl, rfl⟩
  | arr items => exact ⟨_, _, by rw [compact, List.cons_append], rfl⟩
  | obj members => exact ⟨_, _, by rw [compact, List.cons_append], rfl⟩

theorem opening_eq_of_compact {j j' : Json} {rest rest' : List Char}
    (h : j.compact ++ rest = j'.compact ++ rest') : j.opening = j'.opening := by
  obtain ⟨c, s, hj, hc⟩ := exists_compact_eq_cons j
  obtain ⟨c', s', hj', hc'⟩ := exists_compact_eq_cons j'
  rw [hj, hj', List.cons_append, List.cons_append, List.cons.injEq] at h
  rw [← hc, ← hc', h.1]

theorem compact_append_ne_closing (j : Json) (rest rest' : List Char) :
    j.compact ++ rest ≠ ']' :: rest' := by
  obtain ⟨c, s, hj, hc⟩ := exists_compact_eq_cons j
  rw [hj, List.cons_append, ne_eq, List.cons.injEq, not_and]
  rintro rfl
  rcases j with _ | (_ | _) | _ | _ | _ | _ <;> cases hc

/-- Documents that start alike are of one kind. -/
theorem kind_eq_of_opening {j j' : Json} (h : j.opening = j'.opening) :
    match j with
    | .null => j' = .null
    | .bool b => j' = .bool b
    | .int _ => ∃ n, j' = .int n
    | .str _ => ∃ s, j' = .str s
    | .arr _ => ∃ items, j' = .arr items
    | .obj _ => ∃ members, j' = .obj members := by
  rcases j with _ | (_ | _) | _ | _ | _ | _ <;> rcases j' with _ | (_ | _) | _ | _ | _ | _ <;>
    first
      | rfl
      | exact ⟨_, rfl⟩
      | cases h

/-- What stands behind the first of several items. -/
def moreItems : List Json → List Char
  | [] => []
  | j :: rest => ',' :: compactItems (j :: rest)

theorem compactItems_cons (j : Json) (items : List Json) :
    compactItems (j :: items) = j.compact ++ moreItems items := by
  cases items <;> simp [compactItems, moreItems]

/-- What stands behind the first of several members. -/
def moreMembers : List (String × Json) → List Char
  | [] => []
  | m :: rest => ',' :: compactMembers (m :: rest)

theorem compactMembers_cons (key : String) (j : Json) (members : List (String × Json)) :
    compactMembers ((key, j) :: members) = quote key ++ ':' :: (j.compact ++ moreMembers members) := by
  cases members <;> simp [compactMembers, moreMembers]

theorem stops_moreItems (items : List Json) (rest : List Char) :
    Stops Char.isDigit (moreItems items ++ ']' :: rest) := by
  cases items <;> exact fun c hc => by cases hc; rfl

theorem stops_moreMembers (members : List (String × Json)) (rest : List Char) :
    Stops Char.isDigit (moreMembers members ++ '\x7d' :: rest) := by
  cases members <;> exact fun c hc => by cases hc; rfl

mutual

/-- A document is told apart from what stands behind it where that does not go on with a number. -/
theorem compact_append_inj : ∀ (j j' : Json) {rest rest' : List Char}, Stops Char.isDigit rest →
    Stops Char.isDigit rest' → j.compact ++ rest = j'.compact ++ rest' → j = j' ∧ rest = rest'
  | .null, j', _, _, _, _, h => by
    obtain rfl : j' = .null := kind_eq_of_opening (opening_eq_of_compact h)
    exact ⟨rfl, List.append_cancel_left h⟩
  | .bool b, j', _, _, _, _, h => by
    obtain rfl : j' = .bool b := kind_eq_of_opening (opening_eq_of_compact h)
    exact ⟨rfl, List.append_cancel_left h⟩
  | .int n, _, _, _, hrest, hrest', h => by
    obtain ⟨n', rfl⟩ := kind_eq_of_opening (opening_eq_of_compact h)
    obtain ⟨rfl, hend⟩ := integer_append_inj hrest hrest' h
    exact ⟨rfl, hend⟩
  | .str s, _, _, _, _, _, h => by
    obtain ⟨s', rfl⟩ := kind_eq_of_opening (opening_eq_of_compact h)
    obtain ⟨rfl, hend⟩ := quote_append_inj h
    exact ⟨rfl, hend⟩
  | .arr items, _, rest, rest', _, _, h => by
    obtain ⟨items', rfl⟩ := kind_eq_of_opening (opening_eq_of_compact h)
    have hparts : compactItems items ++ ']' :: rest = compactItems items' ++ ']' :: rest' := by
      simpa [compact] using h
    obtain ⟨rfl, hend⟩ := compactItems_inj items items' hparts
    exact ⟨rfl, hend⟩
  | .obj members, _, rest, rest', _, _, h => by
    obtain ⟨members', rfl⟩ := kind_eq_of_opening (opening_eq_of_compact h)
    have hparts : compactMembers members ++ '\x7d' :: rest =
        compactMembers members' ++ '\x7d' :: rest' := by
      simpa [compact] using h
    obtain ⟨rfl, hend⟩ := compactMembers_inj members members' hparts
    exact ⟨rfl, hend⟩

/-- Items are told apart from what stands behind their closing bracket. -/
theorem compactItems_inj : ∀ (items items' : List Json) {rest rest' : List Char},
    compactItems items ++ ']' :: rest = compactItems items' ++ ']' :: rest' →
      items = items' ∧ rest = rest'
  | [], [], _, _, h => ⟨rfl, (List.cons.inj h).2⟩
  | [], j' :: items', _, _, h => by
    rw [compactItems_cons, List.append_assoc] at h
    exact absurd h.symm (compact_append_ne_closing j' _ _)
  | j :: items, [], _, _, h => by
    rw [compactItems_cons, List.append_assoc] at h
    exact absurd h (compact_append_ne_closing j _ _)
  | j :: items, j' :: items', _, _, h => by
    rw [compactItems_cons, compactItems_cons, List.append_assoc, List.append_assoc] at h
    obtain ⟨rfl, hmore⟩ := compact_append_inj j j' (stops_moreItems _ _) (stops_moreItems _ _) h
    rcases items with _ | ⟨k, items⟩ <;> rcases items' with _ | ⟨k', items'⟩
    · exact ⟨rfl, (List.cons.inj hmore).2⟩
    · cases hmore
    · cases hmore
    · obtain ⟨hitems, hend⟩ := compactItems_inj (k :: items) (k' :: items') (List.cons.inj hmore).2
      exact ⟨by rw [hitems], hend⟩

/-- Members are told apart from what stands behind their closing bracket. -/
theorem compactMembers_inj : ∀ (members members' : List (String × Json)) {rest rest' : List Char},
    compactMembers members ++ '\x7d' :: rest = compactMembers members' ++ '\x7d' :: rest' →
      members = members' ∧ rest = rest'
  | [], [], _, _, h => ⟨rfl, (List.cons.inj h).2⟩
  | [], (key', j') :: members', _, _, h => by
    rw [compactMembers_cons, List.append_assoc, quote_append] at h
    cases h
  | (key, j) :: members, [], _, _, h => by
    rw [compactMembers_cons, List.append_assoc, quote_append] at h
    cases h
  | (key, j) :: members, (key', j') :: members', _, _, h => by
    rw [compactMembers_cons, compactMembers_cons, List.append_assoc, List.append_assoc] at h
    obtain ⟨rfl, hvalue⟩ := quote_append_inj h
    rw [List.cons_append, List.cons_append, List.append_assoc, List.append_assoc] at hvalue
    obtain ⟨rfl, hmore⟩ := compact_append_inj j j' (stops_moreMembers _ _) (stops_moreMembers _ _)
      (List.cons.inj hvalue).2
    rcases members with _ | ⟨m, members⟩ <;> rcases members' with _ | ⟨m', members'⟩
    · exact ⟨rfl, (List.cons.inj hmore).2⟩
    · cases hmore
    · cases hmore
    · obtain ⟨hmembers, hend⟩ :=
        compactMembers_inj (m :: members) (m' :: members') (List.cons.inj hmore).2
      exact ⟨by rw [hmembers], hend⟩

end

/-- Documents are told apart by their compact form. -/
theorem compact_inj {j j' : Json} : j.compact = j'.compact ↔ j = j' := by
  have hend : Stops Char.isDigit [] := fun c hc => by cases hc
  refine ⟨fun h => ?_, fun h => by rw [h]⟩
  exact (compact_append_inj j j' hend hend (by rw [h])).1

/-! ### The pretty form -/

/-- Whether a character separates the parts of the pretty form. -/
def isSpacing (c : Char) : Bool := c = ' ' || c = '\n'

/-- Where a character stands: between the parts of a document, in a string, or in a string behind a
backslash. -/
inductive Place where
  | between
  | inString
  | escaped
  deriving DecidableEq, Repr

/-- A text without the spacing between the parts of a document, from a place on. -/
def squeezed : Place → List Char → List Char
  | _, [] => []
  | .between, c :: s =>
    if isSpacing c then squeezed .between s
    else c :: squeezed (if c = '"' then .inString else .between) s
  | .inString, c :: s =>
    c :: squeezed (if c = '"' then .between else if c = '\\' then .escaped else .inString) s
  | .escaped, c :: s => c :: squeezed .inString s

theorem squeezed_spacing {run : List Char} (h : ∀ c ∈ run, isSpacing c = true) (rest : List Char) :
    squeezed .between (run ++ rest) = squeezed .between rest := by
  induction run with
  | nil => rfl
  | cons c run ih =>
    obtain ⟨hc, hrun⟩ := List.forall_mem_cons.mp h
    rw [List.cons_append, squeezed, if_pos hc, ih hrun]

theorem squeezed_plain {run : List Char} (h : ∀ c ∈ run, isSpacing c = false ∧ c ≠ '"')
    (rest : List Char) : squeezed .between (run ++ rest) = run ++ squeezed .between rest := by
  induction run with
  | nil => rfl
  | cons c run ih =>
    obtain ⟨⟨hc, hquote⟩, hrun⟩ := List.forall_mem_cons.mp h
    rw [List.cons_append, squeezed, if_neg (by simp [hc]), if_neg hquote, ih hrun, List.cons_append]

/-- In a string a run without quotes and backslashes is kept. -/
theorem squeezed_run {run : List Char} (h : ∀ c ∈ run, c ≠ '"' ∧ c ≠ '\\') (rest : List Char) :
    squeezed .inString (run ++ rest) = run ++ squeezed .inString rest := by
  induction run with
  | nil => rfl
  | cons c run ih =>
    obtain ⟨⟨hquote, hslash⟩, hrun⟩ := List.forall_mem_cons.mp h
    rw [List.cons_append, squeezed, if_neg hquote, if_neg hslash, ih hrun, List.cons_append]

/-- A character in a string is kept, and the string goes on behind it. -/
theorem squeezed_escape (c : Char) (rest : List Char) :
    squeezed .inString (escape c ++ rest) = escape c ++ squeezed .inString rest := by
  rcases escape_cases c with ⟨d, hd, _, _⟩ | ⟨hu, _⟩ | ⟨hself, hquote, hslash⟩
  · rw [hd]
    rfl
  · have hplain : ∀ d ∈ Text.zeroPadded 4 (Text.hexadecimal c.toNat), d ≠ '"' ∧ d ≠ '\\' := by
      intro d hd
      have hdigit := Text.hexDigit?_isSome_of_mem_zeroPadded hd
      constructor <;> rintro rfl <;> cases hdigit
    rw [hu]
    exact congrArg (fun text => '\\' :: 'u' :: text) (squeezed_run hplain rest)
  · rw [hself]
    exact squeezed_run (List.forall_mem_singleton.mpr ⟨hquote, hslash⟩) rest

/-- A string in quotes is kept. -/
theorem squeezed_quote (s : String) (rest : List Char) :
    squeezed .between (quote s ++ rest) = quote s ++ squeezed .between rest := by
  have hchars : ∀ cs : List Char, squeezed .inString (cs.flatMap escape ++ '"' :: rest) =
      cs.flatMap escape ++ '"' :: squeezed .between rest := by
    intro cs
    induction cs with
    | nil => simp [squeezed]
    | cons c cs ih =>
      rw [List.flatMap_cons, List.append_assoc, squeezed_escape, ih, List.append_assoc]
  rw [quote_append, quote_append, ← hchars]
  rfl

theorem squeezed_newLine (depth : Nat) (rest : List Char) :
    squeezed .between (newLine depth ++ rest) = squeezed .between rest := by
  refine squeezed_spacing (fun c hc => ?_) rest
  rcases List.mem_cons.mp hc with rfl | hc
  · rfl
  · rw [List.eq_of_mem_replicate hc]
    rfl

/-- A number is kept. -/
theorem squeezed_integer (n : Int) (rest : List Char) :
    squeezed .between (integer n ++ rest) = integer n ++ squeezed .between rest := by
  have hdigit : ∀ {c : Char}, c.isDigit = true → isSpacing c = false ∧ c ≠ '"' := by
    intro c hc
    refine ⟨?_, fun hquote => by rw [hquote] at hc; cases hc⟩
    rw [isSpacing, Bool.or_eq_false_iff, decide_eq_false_iff_not, decide_eq_false_iff_not]
    constructor <;> rintro rfl <;> cases hc
  have hdecimal : ∀ k, ∀ c ∈ Text.decimal k, isSpacing c = false ∧ c ≠ '"' := fun k c hc =>
    hdigit (Text.isDigit_of_mem_decimal hc)
  cases n with
  | ofNat n => exact squeezed_plain (hdecimal n) rest
  | negSucc n =>
    exact squeezed_plain (List.forall_mem_cons.mpr ⟨by decide, hdecimal (n + 1)⟩) rest

theorem squeezed_blank (rest : List Char) :
    squeezed .between (' ' :: rest) = squeezed .between rest :=
  squeezed_spacing (List.forall_mem_singleton.mpr rfl) rest

theorem squeezed_cons {c : Char} (hspacing : isSpacing c = false) (hquote : c ≠ '"')
    (rest : List Char) : squeezed .between (c :: rest) = c :: squeezed .between rest :=
  squeezed_plain (List.forall_mem_singleton.mpr ⟨hspacing, hquote⟩) rest

mutual

/-- The pretty form of a document is its compact form with spacing. -/
theorem squeezed_prettyAt : ∀ (j : Json) (depth : Nat) (rest : List Char),
    squeezed .between (j.prettyAt depth ++ rest) = j.compact ++ squeezed .between rest
  | .null, _, _ => rfl
  | .bool true, _, _ => rfl
  | .bool false, _, _ => rfl
  | .int n, _, rest => squeezed_integer n rest
  | .str s, _, rest => squeezed_quote s rest
  | .arr [], _, _ => rfl
  | .arr (j :: items), depth, rest => by
    rw [prettyAt, compact, List.append_assoc, List.append_assoc, List.cons_append,
      squeezed_cons rfl (by decide), squeezed_prettyItems, squeezed_newLine, List.cons_append,
      squeezed_cons rfl (by decide)]
    simp
  | .obj [], _, _ => rfl
  | .obj (m :: members), depth, rest => by
    rw [prettyAt, compact, List.append_assoc, List.append_assoc, List.cons_append,
      squeezed_cons rfl (by decide), squeezed_prettyMembers, squeezed_newLine, List.cons_append,
      squeezed_cons rfl (by decide)]
    simp

/-- Items on lines of their own are the items with spacing. -/
theorem squeezed_prettyItems : ∀ (items : List Json) (depth : Nat) (rest : List Char),
    squeezed .between (prettyItems depth items ++ rest) = compactItems items ++ squeezed .between rest
  | [], _, _ => rfl
  | [j], depth, rest => by
    rw [prettyItems, compactItems, List.append_assoc, squeezed_newLine, squeezed_prettyAt]
  | j :: k :: items, depth, rest => by
    rw [prettyItems, compactItems, List.append_assoc, List.append_assoc, squeezed_newLine,
      squeezed_prettyAt, List.cons_append, squeezed_cons rfl (by decide), squeezed_prettyItems]
    · simp
    · exact List.cons_ne_nil _ _
    · exact List.cons_ne_nil _ _

/-- Members on lines of their own are the members with spacing. -/
theorem squeezed_prettyMembers : ∀ (members : List (String × Json)) (depth : Nat)
    (rest : List Char), squeezed .between (prettyMembers depth members ++ rest) =
      compactMembers members ++ squeezed .between rest
  | [], _, _ => rfl
  | [(key, j)], depth, rest => by
    rw [prettyMembers, compactMembers]
    simp only [List.append_assoc, List.cons_append]
    rw [squeezed_newLine, squeezed_quote, squeezed_cons rfl (by decide), squeezed_blank,
      squeezed_prettyAt]
  | (key, j) :: m :: members, depth, rest => by
    rw [prettyMembers, compactMembers]
    · simp only [List.append_assoc, List.cons_append]
      rw [squeezed_newLine, squeezed_quote, squeezed_cons rfl (by decide), squeezed_blank,
        squeezed_prettyAt, squeezed_cons rfl (by decide), squeezed_prettyMembers]
    · exact List.cons_ne_nil _ _
    · exact List.cons_ne_nil _ _

end

theorem prettyAt_inj {j j' : Json} (depth : Nat) :
    j.prettyAt depth = j'.prettyAt depth ↔ j = j' := by
  have hcompact : ∀ k : Json, squeezed .between (k.prettyAt depth) = k.compact := fun k => by
    simpa [squeezed] using squeezed_prettyAt k depth []
  refine ⟨fun h => ?_, fun h => by rw [h]⟩
  rw [← compact_inj, ← hcompact, h, hcompact]

theorem compactText_inj {j j' : Json} : j.compactText = j'.compactText ↔ j = j' := by
  rw [compactText, compactText, String.ofList_inj, compact_inj]

theorem prettyText_inj {j j' : Json} : j.prettyText = j'.prettyText ↔ j = j' := by
  rw [prettyText, prettyText, String.ofList_inj, prettyAt_inj]

end HostDns.Json
