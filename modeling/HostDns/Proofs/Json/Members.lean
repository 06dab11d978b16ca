import HostDns.Json
import Mathlib.Data.List.Induction
import Mathlib.Data.List.Nodup
import Mathlib.Data.List.Perm.Basic
import Mathlib.Data.String.Basic

/-!
Objects that are built member by member.

Their members stand in the order of their keys, each key once. A member whose key comes up again is lost,
so an object has all the members that it was built from where their keys are distinct.
-/

namespace HostDns.Json

/-- Whether members stand in the order of their keys, each key once. -/
def KeysAscend (members : List (String × Json)) : Prop := (members.map Prod.fst).Pairwise (· < ·)

/-! ### One member -/

/-- The keys behind an insertion are the new one and those before. -/
theorem mem_keys_insertMember {key k : String} {j : Json} {members : List (String × Json)} :
    k ∈ (insertMember key j members).map Prod.fst ↔ k = key ∨ k ∈ members.map Prod.fst := by
  induction members with
  | nil => simp [insertMember]
  | cons member members ih =>
    obtain ⟨name, value⟩ := member
    rw [insertMember]
    split
    · simp
    split
    · next h => simp [h]
    · rw [List.map_cons, List.map_cons, List.mem_cons, List.mem_cons, ih]
      exact or_left_comm

/-- An insertion keeps the order of the keys. -/
theorem KeysAscend.insertMember {members : List (String × Json)} (h : KeysAscend members)
    (key : String) (j : Json) : KeysAscend (insertMember key j members) := by
  induction members with
  | nil => exact List.pairwise_singleton ..
  | cons member members ih =>
    obtain ⟨name, value⟩ := member
    obtain ⟨hname, hmembers⟩ := List.pairwise_cons.mp h
    rw [Json.insertMember]
    split
    · next hlt =>
      refine List.pairwise_cons.mpr ⟨fun k hk => ?_, h⟩
      rcases List.mem_cons.mp hk with rfl | hk
      · exact hlt
      · exact hlt.trans (hname k hk)
    split
    · next heq => exact List.pairwise_cons.mpr ⟨heq ▸ hname, hmembers⟩
    · next hlt heq =>
      refine List.pairwise_cons.mpr ⟨fun k hk => ?_, ih hmembers⟩
      rcases mem_keys_insertMember.mp hk with rfl | hk
      · exact lt_of_le_of_ne (not_lt.mp hlt) (Ne.symm heq)
      · exact hname k hk

/-- A member with a new key is there beside those before. -/
theorem insertMember_perm {key : String} {j : Json} : ∀ {members : List (String × Json)},
    key ∉ members.map Prod.fst → (insertMember key j members).Perm ((key, j) :: members)
  | [], _ => .refl _
  | (name, value) :: members, h => by
    rw [List.map_cons, List.mem_cons, not_or] at h
    rw [insertMember]
    split
    · exact .refl _
    · rw [if_neg h.1]
      exact ((insertMember_perm h.2).cons _).trans (.swap ..)

/-! ### All members -/

/-- One member more is inserted among those before. -/
theorem sortedMembers_concat (members : List (String × Json)) (key : String) (j : Json) :
    sortedMembers (members ++ [(key, j)]) = insertMember key j (sortedMembers members) := by
  rw [sortedMembers, List.foldl_append, List.foldl_cons, List.foldl_nil, ← sortedMembers]

/-- Members that are inserted one by one stand in the order of their keys. -/
theorem keysAscend_sortedMembers (members : List (String × Json)) :
    KeysAscend (sortedMembers members) := by
  induction members using List.reverseRecOn with
  | nil => exact .nil
  | append_singleton members member ih =>
    rw [sortedMembers_concat]
    exact ih.insertMember member.1 member.2

/-- Members with distinct keys are all there. -/
theorem sortedMembers_perm {members : List (String × Json)} (h : (members.map Prod.fst).Nodup) :
    (sortedMembers members).Perm members := by
  induction members using List.reverseRecOn with
  | nil => exact .refl _
  | append_singleton members member ih =>
    obtain ⟨key, j⟩ := member
    rw [List.map_append, List.map_singleton, List.nodup_middle, List.append_nil,
      List.nodup_cons] at h
    have hperm := ih h.2
    have hnew : key ∉ (sortedMembers members).map Prod.fst := fun hkey =>
      h.1 ((hperm.map Prod.fst).mem_iff.mp hkey)
    rw [sortedMembers_concat]
    exact (insertMember_perm hnew).trans ((hperm.cons _).trans (List.perm_append_singleton _ _).symm)

end HostDns.Json
