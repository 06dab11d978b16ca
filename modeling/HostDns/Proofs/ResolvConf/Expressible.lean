import HostDns.Proofs.ResolvConf.Servers
import HostDns.Proofs.Text.Blank

/-!
What every store that is read from a resolver configuration looks like.

Servers are given to the default domain before the first domain is named, and to no default domain
behind it, so the default domain comes first. Names of other domains are tokens. Nothing on a line
stands for flow information.
-/

namespace HostDns

/-- Whether a resolver configuration can give a store: the default domain is the first one if it is
there, the names of the others are words, every domain lists servers, each of them once, and no server
has flow information. -/
structure NameServers.Expressible (s : NameServers) : Prop where
  nodup : (s.domains.map Prod.fst).Nodup
  listed : ∀ domain ∈ s.domains, domain.2 ≠ [] ∧ domain.2.Nodup
  first : ∀ name ∈ (s.domains.map Prod.fst).tail, name ≠ defaultDomain
  word : ∀ name ∈ s.domains.map Prod.fst, name ≠ defaultDomain → Text.IsWord name.toList
  flowInfo : ∀ domain ∈ s.domains, ∀ server ∈ domain.2, server.withoutFlowInfo = server

namespace NameServers

/-! ### Grouped servers -/

theorem map_fst_grouped (given : List (String × Socket)) :
    (grouped given).map Prod.fst = (given.map Prod.fst).eraseDups := by
  rw [grouped, List.map_map]
  exact List.map_id _

theorem mem_givenTo {name : String} {server : Socket} {given : List (String × Socket)} :
    server ∈ givenTo name given ↔ (name, server) ∈ given := by
  simp [givenTo]

/-- A domain of grouped servers lists servers that were given to it, each of them once. -/
theorem of_mem_grouped {given : List (String × Socket)} {name : String} {servers : List Socket}
    (h : (name, servers) ∈ grouped given) :
    servers ≠ [] ∧ servers.Nodup ∧ ∀ server ∈ servers, (name, server) ∈ given := by
  have hiff : ∀ server, server ∈ (givenTo name given).eraseDups ↔ (name, server) ∈ given :=
    fun server => List.mem_eraseDups.trans mem_givenTo
  rw [grouped, List.mem_map] at h
  obtain ⟨_, hname, heq⟩ := h
  cases heq
  rw [List.mem_eraseDups, List.mem_map] at hname
  obtain ⟨⟨_, server⟩, hgiven, rfl⟩ := hname
  exact ⟨List.ne_nil_of_mem ((hiff server).mpr hgiven), nodup_eraseDups _,
    fun s => (hiff s).mp⟩

end NameServers

namespace ResolvConf

/-! ### Domains and servers on lines -/

theorem isWord_of_valueOf {k : Keyword} {line value : List Char} (h : valueOf k line = some value) :
    Text.IsWord value := by
  obtain ⟨rest, htokens⟩ := valueOf_eq_some_iff.mp h
  apply Text.isWord_of_mem_tokens (s := line)
  rw [htokens]
  exact List.mem_cons_of_mem _ List.mem_cons_self

theorem isWord_of_domainOf {line : List Char} {name : String} (h : domainOf line = some name) :
    Text.IsWord name.toList := by
  rw [domainOf, Option.map_eq_some_iff] at h
  obtain ⟨value, hvalue, rfl⟩ := h
  rw [String.toList_ofList]
  exact isWord_of_valueOf hvalue

theorem ne_defaultDomain_of_domainOf {line : List Char} {name : String}
    (h : domainOf line = some name) : name ≠ defaultDomain := by
  rintro rfl
  exact (isWord_of_domainOf h).ne_nil rfl

theorem isWord_domainAfter (before : List (List Char)) (h : domainAfter before ≠ defaultDomain) :
    Text.IsWord (domainAfter before).toList := by
  rw [domainAfter] at h ⊢
  rcases hlast : (before.filterMap domainOf).getLast? with _ | name
  · rw [hlast] at h; exact absurd rfl h
  · obtain ⟨line, -, hline⟩ := List.mem_filterMap.mp (List.mem_of_getLast? hlast)
    exact isWord_of_domainOf hline

theorem exists_givenBy_of_mem {lines : List (List Char)} {given : String × Socket}
    (h : given ∈ givenIn lines) : ∃ before line, givenBy before line = some given := by
  rw [givenIn, List.mem_filterMap] at h
  obtain ⟨⟨line, i⟩, -, hgiven⟩ := h
  exact ⟨lines.take i, line, hgiven⟩

/-- A server is given to the domain that holds, without flow information. -/
theorem of_givenBy {before : List (List Char)} {line : List Char} {name : String} {server : Socket}
    (h : givenBy before line = some (name, server)) :
    name = domainAfter before ∧ server.withoutFlowInfo = server := by
  rw [givenBy, Option.map_eq_some_iff] at h
  obtain ⟨l, -, heq⟩ := h
  cases heq
  refine ⟨rfl, ?_⟩
  rw [Listed.socket]
  split <;> rfl

/-- Servers are given to the default domain before any other: none is given to it behind a domain that
is named, and where none is named, all are. -/
structure DefaultFirst (lines : List (List Char)) : Prop where
  only : domainAfter lines = defaultDomain →
    ∀ name ∈ (givenIn lines).map Prod.fst, name = defaultDomain
  first : ∀ name ∈ ((givenIn lines).map Prod.fst).eraseDups.tail, name ≠ defaultDomain

/-- One line more keeps the default domain first. -/
theorem DefaultFirst.concat {lines : List (List Char)} (h : DefaultFirst lines) (line : List Char) :
    DefaultFirst (lines ++ [line]) := by
  have hback : domainAfter (lines ++ [line]) = defaultDomain →
      domainAfter lines = defaultDomain := by
    rw [domainAfter_concat]
    rcases hnamed : domainOf line with _ | name
    · exact id
    · exact fun h => absurd h (ne_defaultDomain_of_domainOf hnamed)
  have hgiven := givenIn_concat lines line
  rcases hg : givenBy lines line with _ | ⟨name, server⟩
  · rw [hg, Option.toList_none, List.append_nil] at hgiven
    exact ⟨fun hd => hgiven ▸ h.only (hback hd), hgiven ▸ h.first⟩
  · obtain ⟨rfl, -⟩ := of_givenBy hg
    have hnames : (givenIn (lines ++ [line])).map Prod.fst =
        (givenIn lines).map Prod.fst ++ [domainAfter lines] := by
      rw [hgiven, hg, Option.toList_some, List.map_append, List.map_singleton]
    constructor
    · intro hd name hname
      rw [hnames, List.mem_append, List.mem_singleton] at hname
      rcases hname with hname | rfl
      · exact h.only (hback hd) name hname
      · exact hback hd
    · intro name hname
      rw [hnames] at hname
      rcases mem_tail_eraseDups_concat hname with hname | ⟨rfl, hnew, hne⟩
      · exact h.first name hname
      · -- a domain was given a server before, so the default one is not new
        intro hdefault
        obtain ⟨other, hother⟩ := List.exists_mem_of_ne_nil _ hne
        rw [hdefault, ← h.only hdefault other hother] at hnew
        exact hnew hother

theorem defaultFirst (lines : List (List Char)) : DefaultFirst lines := by
  induction lines using List.reverseRecOn with
  | nil => exact ⟨fun _ => List.forall_mem_nil _, List.forall_mem_nil _⟩
  | append_singleton lines line ih => exact ih.concat line

/-- Every store that is read is one that a configuration can give. -/
theorem expressible_of_nameServers {text : String} {servers : NameServers}
    (h : nameServers text = .ok servers) : servers.Expressible := by
  have hgrouped : ∃ lines, servers.domains = NameServers.grouped (givenIn lines) := by
    rw [nameServers] at h
    rcases hread : readLines .start 1 (Text.lines text.toList) with fault | r
    · rw [hread] at h; cases h
    · rw [hread] at h
      cases h
      exact ⟨_, (reached_start.readLines hread).2.servers⟩
  obtain ⟨lines, hdomains⟩ := hgrouped
  have hnames := NameServers.map_fst_grouped (givenIn lines)
  rw [← hdomains] at hnames
  refine ⟨hnames ▸ nodup_eraseDups _, ?_, hnames ▸ (defaultFirst lines).first, ?_, ?_⟩
  · rintro ⟨name, sockets⟩ hmem
    rw [hdomains] at hmem
    obtain ⟨hne, hnodup, -⟩ := NameServers.of_mem_grouped hmem
    exact ⟨hne, hnodup⟩
  · intro name hname hdefault
    rw [hnames, List.mem_eraseDups, List.mem_map] at hname
    obtain ⟨⟨_, server⟩, hmem, rfl⟩ := hname
    obtain ⟨before, line, hgiven⟩ := exists_givenBy_of_mem hmem
    obtain ⟨rfl, -⟩ := of_givenBy hgiven
    exact isWord_domainAfter before hdefault
  · rintro ⟨name, sockets⟩ hmem server hserver
    rw [hdomains] at hmem
    obtain ⟨-, -, hfrom⟩ := NameServers.of_mem_grouped hmem
    obtain ⟨before, line, hgiven⟩ := exists_givenBy_of_mem (hfrom server hserver)
    exact (of_givenBy hgiven).2

end ResolvConf

end HostDns
