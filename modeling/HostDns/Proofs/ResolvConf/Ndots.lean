import HostDns.Proofs.Text.Numeral
import HostDns.ResolvConf.Ndots

/-!
Which token the threshold comes from.

The tokens behind `options` and `search` are taken in one by one, and those of the variable after
them. A token with the mark replaces the threshold that holds before it, also where its value is no
number, and any other token leaves it. So the last token with the mark decides alone.

A value is read as an integer of 64 bits. A number beyond them is as good as none: the threshold is
reset by it, although it is capped by every smaller number above the largest threshold.
-/

namespace HostDns.ResolvConf

/-- What a token about the threshold starts with. -/
def ndotsMark : List Char := "ndots:".toList

/-- Whether the first token of a line makes the others options. -/
def SetsOptions (line : List Char) : Prop :=
  (Text.tokens line).head? = some "options".toList ∨ (Text.tokens line).head? = some "search".toList

instance : DecidablePred SetsOptions := fun _ => inferInstanceAs (Decidable (_ ∨ _))

/-- The tokens that may set the threshold, in order: those behind the first one of each line that sets
options, and then all of the variable. -/
def settings (text : String) (options? : Option String) : List (List Char) :=
  ((Text.lines text.toList).filter SetsOptions).flatMap (fun line => (Text.tokens line).tail) ++
    options?.elim [] fun options => Text.tokens options.toList

/-- Whether a value behind the mark sets the threshold to `n`: numbers are capped, and negative numbers
and values that are no numerals reset it. Numbers from `2 ^ 63` on are left open. -/
structure SetsTo (value : List Char) (n : Nat) : Prop where
  capped : ∀ k : Nat, Text.Denotes value k → k < 2 ^ 63 → n = min k 15
  negative : ∀ k : Int, Text.Denotes value k → k < 0 → n = 1
  malformed : (∀ k, ¬Text.Denotes value k) → n = 1

/-! ### One token -/

/-- What a value behind the mark sets the threshold to. -/
def ndotsOf (value : List Char) : Nat :=
  match Text.integer? 0x8000000000000000 value with
  | some (.ofNat n) => min n maxNdots
  | _ => defaultNdots

/-- A token with the mark sets the threshold, whatever its value is. -/
theorem ndotsToken?_mark (value : List Char) :
    ndotsToken? (ndotsMark ++ value) = some (ndotsOf value) := by
  have hmark : "ndots:".toList.isPrefixOf (ndotsMark ++ value) = true :=
    List.isPrefixOf_iff_prefix.mpr (List.prefix_append _ _)
  have hvalue : (ndotsMark ++ value).drop "ndots:".toList.length = value := List.drop_left
  rw [ndotsToken?, if_pos hmark, hvalue]
  rfl

theorem ndotsToken?_of_unmarked {token : List Char} (h : ¬ndotsMark <+: token) :
    ndotsToken? token = none :=
  if_neg (mt List.isPrefixOf_iff_prefix.mp h)

/-- An integer of 64 bits counts as it is. -/
theorem ndotsOf_of_denotes {value : List Char} {k : Int} (h : Text.Denotes value k)
    (hlow : -2 ^ 63 ≤ k) (hhigh : k < 2 ^ 63) :
    ndotsOf value = if 0 ≤ k then min k.toNat 15 else 1 := by
  have hread : Text.integer? 0x8000000000000000 value = some k :=
    (Text.integer?_eq_some_iff (by decide)).mpr ⟨h, hlow, hhigh⟩
  rw [ndotsOf, hread]
  cases k with
  | ofNat n => rfl
  | negSucc n => rfl

/-- A value that is no numeral of an integer of 64 bits counts as none. -/
theorem ndotsOf_of_not_denotes {value : List Char}
    (h : ∀ k, Text.Denotes value k → k < -2 ^ 63 ∨ 2 ^ 63 ≤ k) : ndotsOf value = 1 := by
  have hread : Text.integer? 0x8000000000000000 value = none := by
    rw [Option.eq_none_iff_forall_ne_some]
    intro k hk
    obtain ⟨hdenotes, hlow, hhigh⟩ := (Text.integer?_eq_some_iff (by decide)).mp hk
    rcases h k hdenotes with hk | hk
    · exact absurd hlow (Int.not_le.mpr hk)
    · exact absurd hhigh (Int.not_lt.mpr hk)
  rw [ndotsOf, hread]
  rfl

/-- Every value sets the threshold as it denotes a number, a negative one or none. -/
theorem setsTo_ndotsOf (value : List Char) : SetsTo value (ndotsOf value) := by
  refine ⟨fun k hk hlt => ?_, fun k hk hneg => ?_, fun hnone => ?_⟩
  · rw [ndotsOf_of_denotes hk (by omega) (by omega), if_pos (Int.natCast_nonneg k),
      Int.toNat_natCast]
  · by_cases hlow : -2 ^ 63 ≤ k
    · rw [ndotsOf_of_denotes hk hlow (by omega), if_neg (by omega)]
    · refine ndotsOf_of_not_denotes fun k' hk' => Or.inl ?_
      rw [hk'.unique hk]
      omega
  · exact ndotsOf_of_not_denotes fun k hk => absurd hk (hnone k)

/-! ### Tokens one after the other -/

/-- What a token makes of the threshold that holds before it. -/
def settle (n : Nat) (token : List Char) : Nat := (ndotsToken? token).getD n

/-- Tokens without the mark leave the threshold as it is. -/
theorem foldl_settle_of_unmarked {tokens : List (List Char)} (h : ∀ token ∈ tokens, ¬ndotsMark <+: token)
    (n : Nat) : tokens.foldl settle n = n := by
  induction tokens with
  | nil => rfl
  | cons token tokens ih =>
    obtain ⟨htoken, htokens⟩ := List.forall_mem_cons.mp h
    rw [List.foldl_cons, settle, ndotsToken?_of_unmarked htoken, Option.getD_none, ih htokens]

/-- The last token with the mark decides, whatever holds before it. -/
theorem foldl_settle_last (before : List (List Char)) (value : List Char) {after : List (List Char)}
    (h : ∀ token ∈ after, ¬ndotsMark <+: token) (n : Nat) :
    (before ++ (ndotsMark ++ value) :: after).foldl settle n = ndotsOf value := by
  rw [List.foldl_append, List.foldl_cons, foldl_settle_of_unmarked h, settle, ndotsToken?_mark,
    Option.getD_some]

/-- Where there are tokens with the mark, there is a last one. -/
theorem exists_last_marked {tokens : List (List Char)} (h : ∃ token ∈ tokens, ndotsMark <+: token) :
    ∃ before value after, tokens = before ++ (ndotsMark ++ value) :: after ∧
      ∀ token ∈ after, ¬ndotsMark <+: token := by
  induction tokens with
  | nil =>
    obtain ⟨token, hmem, -⟩ := h
    exact absurd hmem List.not_mem_nil
  | cons token tokens ih =>
    by_cases hlater : ∃ token ∈ tokens, ndotsMark <+: token
    · obtain ⟨before, value, after, rfl, hafter⟩ := ih hlater
      exact ⟨token :: before, value, after, rfl, hafter⟩
    · obtain ⟨value, rfl⟩ : ndotsMark <+: token := by
        obtain ⟨t, hmem, hmarked⟩ := h
        rcases List.mem_cons.mp hmem with rfl | hmem
        · exact hmarked
        · exact absurd ⟨t, hmem, hmarked⟩ hlater
      exact ⟨[], value, tokens, rfl, fun t ht hmarked => hlater ⟨t, ht, hmarked⟩⟩

/-- What the last of several settings leaves is what taking them in one by one leads to. -/
theorem getLast?_filterMap_ndotsToken? (tokens : List (List Char)) : ∀ n,
    (tokens.filterMap ndotsToken?).getLast?.getD n = tokens.foldl settle n := by
  induction tokens with
  | nil => exact fun _ => rfl
  | cons token tokens ih =>
    intro n
    rw [List.foldl_cons, ← ih, settle]
    rcases htoken : ndotsToken? token with _ | m
    · rw [List.filterMap_cons_none htoken, Option.getD_none]
    · rw [List.filterMap_cons_some htoken, List.getLast?_cons, Option.getD_some, Option.getD_some]

/-- A line gives its tokens behind the first one if it sets options, and none otherwise. -/
theorem optionTokens_eq (line : List Char) :
    optionTokens line = if SetsOptions line then (Text.tokens line).tail else [] := by
  rw [optionTokens]
  rcases htokens : Text.tokens line with _ | ⟨first, rest⟩
  · rw [List.tail_nil, ite_self]
  · have hsets : SetsOptions line ↔ first = "options".toList ∨ first = "search".toList := by
      rw [SetsOptions, htokens, List.head?_cons, Option.some.injEq, Option.some.injEq]
    exact if_congr hsets.symm rfl rfl

/-- The threshold is what the settings make of the default one, taken in one by one. -/
theorem ndots_eq_foldl (text : String) (options? : Option String) :
    ndots text options? = (settings text options?).foldl settle defaultNdots := by
  have hlines : ∀ lines : List (List Char), lines.flatMap optionTokens =
      (lines.filter SetsOptions).flatMap fun line => (Text.tokens line).tail := by
    intro lines
    induction lines with
    | nil => rfl
    | cons line lines ih =>
      rw [List.flatMap_cons, ih, optionTokens_eq, List.filter_cons]
      by_cases h : SetsOptions line <;> simp [h]
  rw [ndots, getLast?_filterMap_ndotsToken?, settings, hlines]
  cases options? <;> rfl

/-! ### What the threshold depends on -/

theorem settings_some (text options : String) :
    settings text (some options) = settings text none ++ Text.tokens options.toList := by
  rw [settings, settings, Option.elim_none, List.append_nil, Option.elim_some]

/-- The threshold is at most fifteen. It is one if no setting has the mark; otherwise the last one with
the mark decides alone: it sets a number from zero on, capped to fifteen, and one for a negative number
or what is no numeral. So a variable with such a token leaves the text without effect, a variable
without one has none itself, and neither have lines that do not set options. -/
theorem ndots_last_setting (text : String) (options? : Option String) :
    ndots text options? ≤ 15 ∧
    ((∀ token ∈ settings text options?, ¬ndotsMark <+: token) → ndots text options? = 1) ∧
    ((∃ token ∈ settings text options?, ndotsMark <+: token) → ∃ before value after,
      settings text options? = before ++ (ndotsMark ++ value) :: after ∧
        (∀ token ∈ after, ¬ndotsMark <+: token) ∧
        ndots text options? = ndotsOf value ∧ SetsTo value (ndotsOf value)) ∧
    (∀ options, (∃ token ∈ Text.tokens options.toList, ndotsMark <+: token) →
      ∀ text', ndots text' (some options) = ndots text (some options)) ∧
    (∀ options, (∀ token ∈ Text.tokens options.toList, ¬ndotsMark <+: token) →
      ndots text (some options) = ndots text none) ∧
    ∀ text' : String,
      (Text.lines text'.toList).filter SetsOptions = (Text.lines text.toList).filter SetsOptions →
        ndots text' options? = ndots text options? := by
  refine ⟨ndots_le_maxNdots text options?, ?_, ?_, ?_, ?_, ?_⟩
  · intro hnone
    rw [ndots_eq_foldl, foldl_settle_of_unmarked hnone]
    rfl
  · intro hsome
    obtain ⟨before, value, after, hsettings, hafter⟩ := exists_last_marked hsome
    refine ⟨before, value, after, hsettings, hafter, ?_, setsTo_ndotsOf value⟩
    rw [ndots_eq_foldl, hsettings, foldl_settle_last before value hafter]
  · intro options hsome text'
    obtain ⟨before, value, after, htokens, hafter⟩ := exists_last_marked hsome
    have hlast : ∀ t : String, ndots t (some options) = ndotsOf value := by
      intro t
      rw [ndots_eq_foldl, settings_some, htokens, ← List.append_assoc,
        foldl_settle_last _ value hafter]
    rw [hlast, hlast]
  · intro options hnone
    rw [ndots_eq_foldl, settings_some, List.foldl_append, foldl_settle_of_unmarked hnone,
      ← ndots_eq_foldl]
  · intro text' hlines
    rw [ndots_eq_foldl, ndots_eq_foldl, settings, settings, hlines]

-- A later value that is no number takes back what an earlier one sets, and a comment sets nothing.
example : ndots "search a.example ndots:3\noptions ndots:many\n# ndots:7" (some "rotate") = 1 := by
  rfl

/-! ### Numbers of any size -/

/-- A line that sets the threshold to a number has one token behind the first one. -/
theorem settings_number (n : Nat) :
    settings ("options ndots:" ++ toString n) none = [ndotsMark ++ Text.decimal n] := by
  have hmark : "options ndots:".toList = "options".toList ++ ' ' :: ndotsMark := rfl
  have htext : ("options ndots:" ++ toString n).toList =
      "options".toList ++ ' ' :: (ndotsMark ++ Text.decimal n) := by
    rw [String.toList_append, hmark, Nat.toString_eq_repr, Nat.toList_repr, List.append_assoc,
      List.cons_append, Text.decimal]
  have hfirst : Text.IsWord "options".toList := Text.isWord_of_all rfl rfl
  have hvalue : Text.IsWord (ndotsMark ++ Text.decimal n) :=
    (Text.isWord_of_all rfl rfl : Text.IsWord ndotsMark).append (Text.isWord_decimal n)
  have htokens := hfirst.tokens_pair hvalue
  have hsets : SetsOptions ("options".toList ++ ' ' :: (ndotsMark ++ Text.decimal n)) :=
    Or.inl (by rw [htokens, List.head?_cons])
  rw [settings, htext, hfirst.lines_pair hvalue, List.filter_cons, if_pos (decide_eq_true hsets),
    List.filter_nil, List.flatMap_singleton, htokens, Option.elim_none, List.append_nil,
    List.tail_cons]

/-- A number is capped to fifteen if it is below `2 ^ 63`, and only then: from there on it resets the
threshold to one. -/
theorem ndots_number (n : Nat) :
    let set := ndots ("options ndots:" ++ toString n) none
    set = (if n < 2 ^ 63 then min n 15 else 1) ∧ (set = min n 15 ↔ n < 2 ^ 63) := by
  intro set
  have hset : set = ndotsOf (Text.decimal n) := by
    have hlast := foldl_settle_last [] (Text.decimal n) (List.forall_mem_nil _) defaultNdots
    rwa [List.nil_append, ← settings_number, ← ndots_eq_foldl] at hlast
  have hdecimal := Text.denotes_decimal n
  rw [hset]
  by_cases h : n < 2 ^ 63
  · rw [(setsTo_ndotsOf _).capped n hdecimal h, if_pos h]
    exact ⟨rfl, iff_of_true rfl h⟩
  · have hreset : ndotsOf (Text.decimal n) = 1 := by
      refine ndotsOf_of_not_denotes fun k hk => Or.inr ?_
      rw [hk.unique hdecimal]
      omega
    rw [hreset, if_neg h]
    exact ⟨rfl, iff_of_false (by omega) h⟩

/-- The largest number that is capped, and the next one, which is not. -/
theorem ndots_reset_by_large_number :
    ndots "options ndots:9223372036854775807" none = 15 ∧
      ndots "options ndots:9223372036854775808" none = 1 ∧
      ndots "options ndots:9223372036854775808" none ≠ min 9223372036854775808 15 := by
  have hreset : ndots "options ndots:9223372036854775808" none = 1 := rfl
  exact ⟨rfl, hreset, by rw [hreset]; decide⟩

end HostDns.ResolvConf
