import HostDns.Config.Settings
import Mathlib.Data.List.Forall2

/-!
The words by which a document names versions and preferences.

Every value has words of its own. A word may be written in capitals, in small letters or in both, and a
text that is none of the words names nothing.
-/

namespace HostDns.Config

/-- The words for the versions. -/
def versionWords : List (String × IpVersion) := [
  ("ipv4", .v4), ("v4", .v4), ("4", .v4),
  ("ipv6", .v6), ("v6", .v6), ("6", .v6),
  ("both", .both), ("all", .both), ("dual", .both)]

/-- The words for the preferences. -/
def preferenceWords : List (String × Preference) := [
  ("ipv6-first", .ipv6First), ("ipv6_first", .ipv6First),
  ("ipv4-only", .ipv4Only), ("ipv4_only", .ipv4Only),
  ("as-listed", .asListed), ("as_listed", .asListed)]

/-- A character is another one or, if that is a small letter, its capital. -/
def EitherCase (c d : Char) : Prop := c = d ∨ c.isUpper = true ∧ c.toNat + 32 = d.toNat

instance (c d : Char) : Decidable (EitherCase c d) := inferInstanceAs (Decidable (_ ∨ _))

/-- A text is a word, each of its letters in either case. -/
def Spells (text word : String) : Prop := List.Forall₂ EitherCase text.toList word.toList

instance (text word : String) : Decidable (Spells text word) :=
  inferInstanceAs (Decidable (List.Forall₂ ..))

/-- A text names a value by one of its words. -/
def Names {α : Type} (words : List (String × α)) (text : String) (a : α) : Prop :=
  ∃ entry ∈ words, Spells text entry.1 ∧ entry.2 = a

instance {α : Type} [DecidableEq α] (words : List (String × α)) (text : String) (a : α) :
    Decidable (Names words text a) :=
  inferInstanceAs (Decidable (∃ entry ∈ words, _))

/-- A text is one of some words. -/
def IsOneOf {α : Type} (words : List (String × α)) (text : String) : Prop :=
  ∃ entry ∈ words, Spells text entry.1

instance {α : Type} (words : List (String × α)) (text : String) : Decidable (IsOneOf words text) :=
  inferInstanceAs (Decidable (∃ entry ∈ words, _))

/-! ### Letters and words -/

theorem toNat_toLower {c : Char} (h : c.isUpper = true) : c.toLower.toNat = c.toNat + 32 := by
  have hupper : 'A'.val ≤ c.val ∧ c.val ≤ 'Z'.val := of_decide_eq_true h
  have hle : c.toNat ≤ 90 := UInt32.le_iff_toNat_le.mp hupper.2
  have hlower : c.toLower.val = c.val + ('a'.val - 'A'.val) := congrArg Char.val (dif_pos hupper)
  have hdistance : ('a'.val - 'A'.val).toNat = 32 := rfl
  rw [← Char.toNat_val, hlower, UInt32.toNat_add, hdistance, Char.toNat_val]
  omega

/-- A character comes to another one that is no capital if it is this or its capital. -/
theorem toLower_eq_iff {c d : Char} (hd : d.isUpper = false) : c.toLower = d ↔ EitherCase c d := by
  by_cases hc : c.isUpper = true
  · have hne : c ≠ d := by
      rintro rfl
      simp [hd] at hc
    rw [EitherCase, ← Char.toNat_inj, toNat_toLower hc]
    simp [hne, hc]
  · have hsame : c.toLower = c := dif_neg fun h => hc (decide_eq_true h)
    simp [hsame, EitherCase, hc]

theorem map_toLower_eq_iff : ∀ {cs ds : List Char}, (∀ d ∈ ds, d.isUpper = false) →
    (cs.map Char.toLower = ds ↔ List.Forall₂ EitherCase cs ds)
  | [], [], _ => by simp
  | [], _ :: _, _ => by simp
  | _ :: _, [], _ => by simp
  | c :: cs, d :: ds, hds => by
    obtain ⟨hd, hds⟩ := List.forall_mem_cons.mp hds
    rw [List.map_cons, List.cons.injEq, List.forall₂_cons, toLower_eq_iff hd, map_toLower_eq_iff hds]

/-- In small letters a text is one of some words if it is that word in either case. -/
theorem mem_words_iff {α : Type} {words : List (String × α)}
    (hsmall : ∀ entry ∈ words, entry.1.toList.all (!·.isUpper) = true) {text : String} {a : α} :
    (text.map Char.toLower, a) ∈ words ↔ Names words text a := by
  have hspells : ∀ entry ∈ words, Spells text entry.1 ↔ text.map Char.toLower = entry.1 := by
    intro entry hentry
    have hletters : ∀ c ∈ entry.1.toList, c.isUpper = false := by simpa using hsmall entry hentry
    rw [Spells, ← map_toLower_eq_iff hletters, ← String.toList_map, String.toList_inj]
  constructor
  · intro hmem
    exact ⟨_, hmem, (hspells _ hmem).mpr rfl, rfl⟩
  · rintro ⟨⟨word, a⟩, hmem, hword, rfl⟩
    rwa [(hspells _ hmem).mp hword]

/-! ### What the readers read -/

/-- A text is read as the version that it names. -/
theorem version?_eq_some_iff {text : String} {version : IpVersion} :
    version? text = some version ↔ Names versionWords text version := by
  rw [← mem_words_iff (by decide), version?]
  generalize text.map Char.toLower = word
  split <;> cases version <;> simp_all [versionWords]

/-- A text is read as the preference that it names. -/
theorem preference?_eq_some_iff {text : String} {preference : Preference} :
    preference? text = some preference ↔ Names preferenceWords text preference := by
  rw [← mem_words_iff (by decide), preference?]
  generalize text.map Char.toLower = word
  split <;> cases preference <;> simp_all [preferenceWords]

/-- A reader of words reads exactly these. -/
theorem eq_none_iff_of_names {α : Type} {words : List (String × α)} {read : String → Option α}
    (hread : ∀ {text a}, read text = some a ↔ Names words text a) {text : String} :
    read text = none ↔ ¬IsOneOf words text := by
  rw [← not_iff_not, not_not, ← ne_eq, Option.ne_none_iff_exists']
  simp only [hread, Names, IsOneOf]
  constructor
  · rintro ⟨a, entry, hmem, hspells, -⟩
    exact ⟨entry, hmem, hspells⟩
  · rintro ⟨entry, hmem, hspells⟩
    exact ⟨entry.2, entry, hmem, hspells, rfl⟩

end HostDns.Config
