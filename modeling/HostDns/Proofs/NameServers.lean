import HostDns.NameServers
import Mathlib.Data.List.Induction
import Mathlib.Data.List.Nodup

/-!
Name servers as a grouping of servers by domain.

`grouped` says what a store holds after servers were given to domains one by one: the domains in the
order of their first server, each with its servers in the order in which they were first given to it.
Adding a server to a store is adding it to the servers that were given.
-/

namespace HostDns

section FirstOccurrences

variable {α : Type} [DecidableEq α]

/-- A further element is kept only if it is new. -/
theorem eraseDups_concat (l : List α) (a : α) :
    (l ++ [a]).eraseDups = if a ∈ l then l.eraseDups else l.eraseDups ++ [a] := by
  rw [List.eraseDups_append]
  by_cases h : a ∈ l
  · simp [List.removeAll, h]
  · simp [List.removeAll, h, List.eraseDups_cons]

theorem nodup_eraseDups (l : List α) : l.eraseDups.Nodup := by
  induction l using List.reverseRecOn with
  | nil => exact List.nodup_nil
  | append_singleton l a ih =>
    rw [eraseDups_concat]
    split
    · exact ih
    · next h => simpa using ih.concat (mt List.mem_eraseDups.mp h)

theorem eraseDups_of_nodup {l : List α} (h : l.Nodup) : l.eraseDups = l := by
  induction l using List.reverseRecOn with
  | nil => rfl
  | append_singleton l a ih =>
    rw [List.nodup_middle, List.append_nil, List.nodup_cons] at h
    rw [eraseDups_concat, if_neg h.1, ih h.2]

/-- What tells elements apart keeps their first occurrences. -/
theorem eraseDups_map {β : Type} [DecidableEq β] {f : α → β} (hf : Function.Injective f)
    (l : List α) : (l.map f).eraseDups = l.eraseDups.map f := by
  induction l using List.reverseRecOn with
  | nil => rfl
  | append_singleton l a ih =>
    rw [List.map_append, List.map_singleton, eraseDups_concat, eraseDups_concat, ih]
    simp only [List.mem_map_of_injective hf]
    split
    · rfl
    · rw [List.map_append, List.map_singleton]

/-- A further element stands behind the first one only if it is new and not the first one itself. -/
theorem mem_tail_eraseDups_concat {l : List α} {a b : α} (h : b ∈ (l ++ [a]).eraseDups.tail) :
    b ∈ l.eraseDups.tail ∨ b = a ∧ a ∉ l ∧ l ≠ [] := by
  rw [eraseDups_concat] at h
  split at h
  · exact Or.inl h
  · next hnew =>
    rcases l with _ | ⟨c, l⟩
    · cases h
    rw [List.eraseDups_cons, List.cons_append, List.tail_cons, List.mem_append,
      List.mem_singleton] at h
    rcases h with h | rfl
    · exact Or.inl (by rwa [List.eraseDups_cons])
    · exact Or.inr ⟨rfl, hnew, List.cons_ne_nil c l⟩

end FirstOccurrences

namespace NameServers

/-- The servers that were given to a domain, in order. -/
def givenTo (domain : String) (given : List (String × Socket)) : List Socket :=
  (given.filter (·.1 = domain)).map Prod.snd

/-- What a store holds after servers were given to domains one by one. -/
def grouped (given : List (String × Socket)) : List (String × List Socket) :=
  (given.map Prod.fst).eraseDups.map fun domain => (domain, (givenTo domain given).eraseDups)

theorem givenTo_concat (name : String) (given : List (String × Socket)) (domain : String)
    (server : Socket) : givenTo name (given ++ [(domain, server)]) =
      if name = domain then givenTo name given ++ [server] else givenTo name given := by
  by_cases h : name = domain
  · simp [givenTo, h]
  · simp [givenTo, h, Ne.symm h]

theorem addServer_eraseDups (servers : List Socket) (server : Socket) :
    addServer servers.eraseDups server = (servers ++ [server]).eraseDups := by
  rw [eraseDups_concat, addServer]
  simp only [List.mem_eraseDups]

theorem modifyDomain_modifyDomain (domain : String) (f g : List Socket → List Socket) :
    ∀ l, modifyDomain domain g (modifyDomain domain f l) = modifyDomain domain (g ∘ f) l
  | [] => by simp [modifyDomain]
  | (name, servers) :: rest => by
    by_cases h : name = domain
    · simp [modifyDomain, h]
    · simp [modifyDomain, h, modifyDomain_modifyDomain domain f g rest]

theorem extend_append (s : NameServers) (domain : String) (first second : List Socket) :
    s.extend domain (first ++ second) = (s.extend domain first).extend domain second := by
  have hparts : (fun servers => (first ++ second).foldl addServer servers) =
      (second.foldl addServer ·) ∘ (first.foldl addServer ·) :=
    funext fun _ => List.foldl_append
  rw [extend, extend, extend, modifyDomain_modifyDomain, ← hparts]

/-- A domain that is listed is changed in its place, and one that is not is added last. -/
theorem modifyDomain_map (domain : String) (change : List Socket → List Socket)
    (servers : String → List Socket) : ∀ names : List String, names.Nodup →
      modifyDomain domain change (names.map fun name => (name, servers name)) =
        names.map (fun name =>
          (name, if name = domain then change (servers name) else servers name)) ++
          if domain ∈ names then [] else [(domain, change [])]
  | [], _ => rfl
  | name :: names, hnodup => by
    have hnew := (List.nodup_cons.mp hnodup).1
    have ih := modifyDomain_map domain change servers names (List.nodup_cons.mp hnodup).2
    by_cases h : name = domain
    · subst h
      have hrest : names.map (fun n => (n, if n = name then change (servers n) else servers n)) =
          names.map fun n => (n, servers n) :=
        List.map_congr_left fun n hn => by rw [if_neg (ne_of_mem_of_not_mem hn hnew)]
      simp [modifyDomain, hrest]
    · simp [modifyDomain, h, Ne.symm h, ih]

theorem modifyDomain_of_not_mem {domain : String} (change : List Socket → List Socket) :
    ∀ {l : List (String × List Socket)}, domain ∉ l.map Prod.fst →
      modifyDomain domain change l = l ++ [(domain, change [])]
  | [], _ => rfl
  | (name, servers) :: rest, h => by
    rw [List.map_cons, List.mem_cons, not_or] at h
    rw [modifyDomain, if_neg (Ne.symm h.1), modifyDomain_of_not_mem change h.2, List.cons_append]

theorem foldl_addServer_eraseDups (servers : List Socket) : ∀ before : List Socket,
    servers.foldl addServer before.eraseDups = (before ++ servers).eraseDups := by
  induction servers with
  | nil => intro before; rw [List.foldl_nil, List.append_nil]
  | cons server servers ih =>
    intro before
    rw [List.foldl_cons, addServer_eraseDups, ih, List.append_assoc, List.singleton_append]

/-- Where the domains are listed in the order in which they were named, each with the first
occurrences of its servers, further servers of a domain name it again and occur behind its others. -/
theorem modifyDomain_eraseDups (domain : String) (added : List Socket) (names : List String)
    (servers : String → List Socket) (hnone : domain ∉ names → servers domain = []) :
    modifyDomain domain (added.foldl addServer)
        (names.eraseDups.map fun name => (name, (servers name).eraseDups)) =
      (names ++ [domain]).eraseDups.map fun name =>
        (name, (if name = domain then servers name ++ added else servers name).eraseDups) := by
  have hservers : ∀ name,
      (if name = domain then servers name ++ added else servers name).eraseDups =
        if name = domain then added.foldl addServer (servers name).eraseDups
        else (servers name).eraseDups := by
    intro name
    rw [foldl_addServer_eraseDups]
    split <;> rfl
  rw [modifyDomain_map domain _ _ _ (nodup_eraseDups _), eraseDups_concat]
  simp only [hservers, List.mem_eraseDups]
  by_cases h : domain ∈ names
  · rw [if_pos h, if_pos h, List.append_nil]
  · rw [if_neg h, if_neg h, List.map_append, List.map_singleton, if_pos rfl, hnone h]
    rfl

/-- Giving one more server is adding it to the store. -/
theorem grouped_concat (given : List (String × Socket)) (domain : String) (server : Socket) :
    grouped (given ++ [(domain, server)]) =
      modifyDomain domain (addServer · server) (grouped given) := by
  have hnone : domain ∉ given.map Prod.fst → givenTo domain given = [] := by
    intro h
    rw [givenTo, List.map_eq_nil_iff, List.filter_eq_nil_iff]
    intro entry hentry heq
    exact h (List.mem_map.mpr ⟨entry, hentry, by simpa using heq⟩)
  have hadd := modifyDomain_eraseDups domain [server] (given.map Prod.fst) (givenTo · given) hnone
  rw [grouped, List.map_append, List.map_singleton]
  simp only [givenTo_concat]
  exact hadd.symm

end NameServers

end HostDns
