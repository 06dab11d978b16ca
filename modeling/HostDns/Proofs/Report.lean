import HostDns.Proofs.Json.Members
import HostDns.Proofs.NameServers.Calls
import HostDns.Report

/-!
What the listings show.

A listing of name servers has one form for readers and one as a document. Both show the threshold, the
servers of the default domain in the preferred order, and each other domain with its servers.
-/

namespace HostDns

open NameServers (Call run)

/-- The domains that calls name beside the default one, in the order in which they were first named. -/
def NameServers.othersNamed (calls : List Call) : List String :=
  (calls.map Call.domain).eraseDups.filter (· ≠ defaultDomain)

namespace Report

theorem otherDomains_run (calls : List Call) :
    otherDomains (run calls) =
      (NameServers.othersNamed calls).map fun domain => (domain, (run calls).serversOf domain) := by
  rw [otherDomains, NameServers.domains_run, NameServers.othersNamed, List.filter_map]
  exact List.map_congr_left fun domain _ => by rw [NameServers.serversOf_run]

theorem nodup_othersNamed (calls : List Call) : (NameServers.othersNamed calls).Nodup :=
  (nodup_eraseDups _).filter _

/-! ### The document -/

theorem jsonList_eq (servers : List Socket) :
    Socket.jsonList servers = .arr ((servers.map Socket.text).map .str) := by
  rw [Socket.jsonList, List.map_map]
  rfl

/-- The member of a domain: its name, and its servers by their texts. -/
def domainMember (s : NameServers) (domain : String) : String × Json :=
  (domain, .arr (((s.serversOf domain).map Socket.text).map .str))

theorem domainMembers_run (calls : List Call) :
    ((otherDomains (run calls)).map fun (domain, servers) => (domain, Socket.jsonList servers)) =
      (NameServers.othersNamed calls).map (domainMember (run calls)) := by
  rw [otherDomains_run, List.map_map]
  exact List.map_congr_left fun domain _ => congrArg (Prod.mk domain) (jsonList_eq _)

theorem map_fst_domainMember (s : NameServers) (domains : List String) :
    (domains.map (domainMember s)).map Prod.fst = domains := by
  rw [List.map_map]
  exact List.map_id' domains

/-- The members of a listing stand in the order of their names. -/
theorem nameServersJson_eq (s : NameServers) (ndots : Nat) (prefer : Preference) :
    nameServersJson s ndots prefer = .obj [
      ("default", Socket.jsonList (s.defaultServers prefer)),
      ("domains", .obj (Json.sortedMembers ((otherDomains s).map fun (domain, servers) =>
        (domain, Socket.jsonList servers)))),
      ("ndots", .nat ndots)] := by
  have hdefault : "default" < "ndots" := by decide
  have hndots : ¬"domains" < "default" := by decide
  have hdomains : "domains" < "ndots" := by decide
  simp [nameServersJson, Json.ofMembers, Json.sortedMembers, Json.insertMember, hdefault, hdomains,
    hndots]

/-! ### The form for readers -/

theorem serverLines_eq (heading : String) (servers : List Socket) :
    serverLines heading servers =
      (heading ++ ":") :: (servers.map Socket.text).map ("  " ++ ·) := by
  rw [serverLines, List.map_map]
  rfl

/-- The lines for readers: the threshold, the default domain, and each other domain once. -/
theorem nameServersText_run (calls : List Call) (ndots : Nat) (prefer : Preference) :
    nameServersText (run calls) ndots prefer = Text.unlines
      (("ndots: " ++ toString ndots) :: ("default (" ++ prefer.name ++ "):") ::
        (((run calls).defaultServers prefer).map Socket.text).map ("  " ++ ·) ++
        (NameServers.othersNamed calls).flatMap fun domain =>
          (domain ++ ":") :: (((run calls).serversOf domain).map Socket.text).map ("  " ++ ·)) := by
  have hheading : "default (" ++ prefer.name ++ ")" ++ ":" = "default (" ++ prefer.name ++ "):" := by
    rw [String.append_assoc]
    rfl
  rw [nameServersText, serverLines_eq, hheading, otherDomains_run, List.flatMap_map]
  simp only [serverLines_eq]

/-! ### Both forms -/

/-- Both forms of a listing show the same data of a store. The document has the threshold, the texts of
the servers of the default domain in the preferred order, and an object with one member for each other
domain, also for one without servers; its members are all of them, none comes up twice, and the default
domain is not among them. The form for readers has the threshold, then the default domain with the same
texts, wherever it stands in the store, and then the other domains in the order in which they were named,
each once and with the texts that its member in the document has. -/
theorem nameServers_shows_store (calls : List Call) (ndots : Nat) (prefer : Preference) :
    let s := run calls
    let others := NameServers.othersNamed calls
    let preferred := (s.defaultServers prefer).map Socket.text
    let shown := fun domain => (s.serversOf domain).map Socket.text
    (others.Nodup ∧ others = (s.domains.map Prod.fst).filter (· ≠ defaultDomain) ∧
      ∀ domain ∈ others, s.forDomain? domain = some (s.serversOf domain)) ∧
    (∃ members,
      nameServers true s ndots prefer =
        (Json.obj [("default", .arr (preferred.map .str)), ("domains", .obj members),
          ("ndots", .nat ndots)]).prettyText ++ "\n" ∧
      members.Perm (others.map fun domain => (domain, .arr ((shown domain).map .str))) ∧
      Json.KeysAscend members ∧ defaultDomain ∉ members.map Prod.fst) ∧
    nameServers false s ndots prefer = Text.unlines
      (("ndots: " ++ toString ndots) ::
        ("default (" ++ prefer.name ++ "):") :: preferred.map ("  " ++ ·) ++
        others.flatMap fun domain => (domain ++ ":") :: (shown domain).map ("  " ++ ·)) := by
  intro s others preferred shown
  have hkeys : (others.map (domainMember s)).map Prod.fst = others := map_fst_domainMember s others
  have hperm : (Json.sortedMembers (others.map (domainMember s))).Perm
      (others.map (domainMember s)) :=
    Json.sortedMembers_perm (hkeys.symm ▸ nodup_othersNamed calls)
  refine ⟨⟨nodup_othersNamed calls, ?_, fun domain hdomain => ?_⟩,
    ⟨_, ?_, hperm, Json.keysAscend_sortedMembers _, ?_⟩, nameServersText_run calls ndots prefer⟩
  · rw [NameServers.names_run]
    rfl
  · exact NameServers.forDomain?_of_named (List.mem_eraseDups.mp (List.mem_filter.mp hdomain).1)
  · rw [nameServers, if_pos rfl, nameServersJson_eq, domainMembers_run, jsonList_eq]
  · rw [(hperm.map Prod.fst).mem_iff, hkeys]
    exact fun h => absurd (List.mem_filter.mp h).2 (by simp)

/-- The default domain is named last, and a domain without servers is shown. -/
example : nameServers false (run [.extend "corp" [], .insert "" (.v4 ⟨1, 1, 1, 1⟩ 53)]) 1 .asListed =
    "ndots: 1\ndefault (as-listed):\n  1.1.1.1:53\ncorp:\n" := by rfl

end Report

end HostDns
