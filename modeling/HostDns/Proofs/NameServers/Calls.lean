import HostDns.Proofs.NameServers

/-!
A store under any sequence of calls.

A call inserts one server or extends a domain by several ones. What a store holds after calls is
told from the calls alone: the domains in the order in which they were first named, each with the
first occurrences of the servers that were passed for it.
-/

namespace HostDns.NameServers

/-- A call that names a domain and passes servers for it. -/
inductive Call where
  | insert (domain : String) (server : Socket)
  | extend (domain : String) (servers : List Socket)
  deriving DecidableEq, Repr

namespace Call

/-- The domain that a call names. -/
def domain : Call → String
  | insert domain _ => domain
  | extend domain _ => domain

/-- The servers that a call passes. -/
def servers : Call → List Socket
  | insert _ server => [server]
  | extend _ servers => servers

/-- The store behind a call. -/
def apply (s : NameServers) : Call → NameServers
  | insert domain server => (s.insert domain server).2
  | extend domain servers => s.extend domain servers

end Call

/-- The store behind calls, the first of which is made on an empty one. -/
def run (calls : List Call) : NameServers := calls.foldl Call.apply empty

/-- All servers that calls pass for a domain, in order. -/
def passedFor (domain : String) (calls : List Call) : List Socket :=
  (calls.filter (·.domain = domain)).flatMap Call.servers

/-! ### One call -/

theorem apply_domains (s : NameServers) (call : Call) :
    (call.apply s).domains = modifyDomain call.domain (call.servers.foldl addServer) s.domains := by
  cases call <;> rfl

/-- The domain that is changed has the changed servers. -/
theorem lookup_modifyDomain_self (domain : String) (change : List Socket → List Socket) :
    ∀ l : List (String × List Socket),
      (modifyDomain domain change l).lookup domain = some (change ((l.lookup domain).getD []))
  | [] => by
    rw [modifyDomain, List.lookup_cons, beq_self_eq_true]
    rfl
  | (name, servers) :: rest => by
    by_cases hname : name = domain
    · subst hname
      rw [modifyDomain, if_pos rfl, List.lookup_cons, List.lookup_cons, beq_self_eq_true]
      rfl
    · rw [modifyDomain, if_neg hname, List.lookup_cons, List.lookup_cons,
        beq_eq_false_iff_ne.mpr (Ne.symm hname), lookup_modifyDomain_self domain change rest]

/-- Changing a domain changes no other one. -/
theorem lookup_modifyDomain_of_ne {domain d : String} (h : d ≠ domain)
    (change : List Socket → List Socket) : ∀ l : List (String × List Socket),
      (modifyDomain domain change l).lookup d = l.lookup d
  | [] => by rw [modifyDomain, List.lookup_cons, beq_eq_false_iff_ne.mpr h]
  | (name, servers) :: rest => by
    by_cases hname : name = domain
    · subst hname
      rw [modifyDomain, if_pos rfl, List.lookup_cons, List.lookup_cons,
        beq_eq_false_iff_ne.mpr h]
    · rw [modifyDomain, if_neg hname, List.lookup_cons, List.lookup_cons,
        lookup_modifyDomain_of_ne h change rest]

/-- The other domains stay in their order with their servers. -/
theorem filter_modifyDomain (domain : String) (change : List Socket → List Socket) :
    ∀ l : List (String × List Socket),
      (modifyDomain domain change l).filter (·.1 ≠ domain) = l.filter (·.1 ≠ domain)
  | [] => by simp [modifyDomain]
  | (name, servers) :: rest => by
    by_cases hname : name = domain
    · simp [modifyDomain, hname]
    · rw [modifyDomain, if_neg hname, List.filter_cons, List.filter_cons,
        filter_modifyDomain domain change rest]

theorem names_prefix_modifyDomain (domain : String) (change : List Socket → List Socket) :
    ∀ l : List (String × List Socket),
      l.map Prod.fst <+: (modifyDomain domain change l).map Prod.fst
  | [] => List.nil_prefix
  | (name, servers) :: rest => by
    by_cases hname : name = domain
    · simp [modifyDomain, hname]
    · simpa [modifyDomain, hname] using names_prefix_modifyDomain domain change rest

/-- Changing the servers of a domain that is listed to what they are changes nothing. -/
theorem modifyDomain_eq_self {domain : String} {change : List Socket → List Socket} :
    ∀ {l : List (String × List Socket)} {servers : List Socket},
      l.lookup domain = some servers → change servers = servers →
        modifyDomain domain change l = l
  | [], _, h, _ => by simp at h
  | (name, servers') :: rest, servers, h, hsame => by
    by_cases hname : name = domain
    · subst hname
      obtain rfl : servers' = servers := by simpa using h
      simp [modifyDomain, hsame]
    · rw [List.lookup_cons, beq_eq_false_iff_ne.mpr (Ne.symm hname)] at h
      have hrest : rest.lookup domain = some servers := h
      rw [modifyDomain, if_neg hname, modifyDomain_eq_self hrest hsame]

theorem insert_snd_eq_extend (s : NameServers) (domain : String) (server : Socket) :
    (s.insert domain server).2 = s.extend domain [server] := rfl

/-- An insertion tells whether the domain did not list the server. -/
theorem insert_fst_eq_true_iff (s : NameServers) (domain : String) (server : Socket) :
    (s.insert domain server).1 = true ↔
      ∀ servers, s.forDomain? domain = some servers → server ∉ servers := by
  rw [insert, serversOf]
  rcases s.forDomain? domain with _ | servers <;> simp

/-- A server that is not new leaves the store as it is. -/
theorem insert_snd_of_not_new {s : NameServers} {domain : String} {server : Socket}
    (h : (s.insert domain server).1 = false) : (s.insert domain server).2 = s := by
  have hmem : server ∈ s.serversOf domain := by simpa [insert] using h
  rw [serversOf] at hmem
  rcases hfound : s.forDomain? domain with _ | servers
  · rw [hfound] at hmem
    exact absurd hmem List.not_mem_nil
  · rw [hfound] at hmem
    have hsame : addServer servers server = servers := if_pos hmem
    exact congrArg NameServers.mk (modifyDomain_eq_self hfound hsame)

/-- Servers may be inserted one by one. -/
theorem extend_eq_foldl_insert (domain : String) : ∀ {servers : List Socket}, servers ≠ [] →
    ∀ s : NameServers,
      s.extend domain servers = servers.foldl (fun s server => (s.insert domain server).2) s
  | [], h, _ => absurd rfl h
  | [server], _, _ => rfl
  | server :: server' :: servers, _, s => by
    have hrest := extend_eq_foldl_insert domain (List.cons_ne_nil server' servers)
      (s.extend domain [server])
    rw [List.foldl_cons, insert_snd_eq_extend, ← hrest, ← extend_append, List.singleton_append]

/-! ### All calls -/

/-- One call more passes its servers for its own domain only. -/
theorem passedFor_concat (name : String) (calls : List Call) (call : Call) :
    passedFor name (calls ++ [call]) =
      if name = call.domain then passedFor name calls ++ call.servers
      else passedFor name calls := by
  by_cases h : name = call.domain
  · simp [passedFor, h]
  · simp [passedFor, h, Ne.symm h]

theorem passedFor_of_not_named {domain : String} {calls : List Call}
    (h : domain ∉ calls.map Call.domain) : passedFor domain calls = [] := by
  rw [passedFor, List.flatMap_eq_nil_iff]
  intro call hcall
  obtain ⟨hmem, hdomain⟩ := List.mem_filter.mp hcall
  exact absurd (List.mem_map.mpr ⟨call, hmem, by simpa using hdomain⟩) h

/-- The store behind calls holds the domains in the order in which they were first named, each with
the first occurrences of the servers that were passed for it. -/
theorem domains_run (calls : List Call) :
    (run calls).domains = (calls.map Call.domain).eraseDups.map fun domain =>
      (domain, (passedFor domain calls).eraseDups) := by
  induction calls using List.reverseRecOn with
  | nil => rfl
  | append_singleton calls call ih =>
    have hadd := modifyDomain_eraseDups call.domain call.servers (calls.map Call.domain)
      (passedFor · calls) passedFor_of_not_named
    rw [run, List.foldl_append, List.foldl_cons, List.foldl_nil, ← run, apply_domains, ih, hadd,
      List.map_append, List.map_singleton]
    simp only [passedFor_concat]

/-- A domain that is named is found with its servers, and no other one. -/
theorem lookup_map (servers : String → List Socket) (domain : String) : ∀ names : List String,
    (names.map fun name => (name, servers name)).lookup domain =
      if domain ∈ names then some (servers domain) else none
  | [] => by simp
  | name :: names => by
    by_cases h : domain = name
    · simp [h]
    · rw [List.map_cons, List.lookup_cons, beq_eq_false_iff_ne.mpr h]
      simp [h, lookup_map servers domain names]

/-- The domains are listed in the order in which they were first named. -/
theorem names_run (calls : List Call) :
    (run calls).domains.map Prod.fst = (calls.map Call.domain).eraseDups := by
  rw [domains_run, List.map_map]
  exact List.map_id _

/-- A domain has servers if it was named, and then the first occurrences of those passed for it. -/
theorem forDomain?_run (calls : List Call) (domain : String) :
    (run calls).forDomain? domain =
      if domain ∈ calls.map Call.domain then some (passedFor domain calls).eraseDups else none := by
  rw [forDomain?, domains_run, lookup_map fun name => (passedFor name calls).eraseDups]
  exact if_congr List.mem_eraseDups rfl rfl

/-- The servers of a domain are the first occurrences of those passed for it. -/
theorem serversOf_run (calls : List Call) (domain : String) :
    (run calls).serversOf domain = (passedFor domain calls).eraseDups := by
  rw [serversOf, forDomain?_run]
  split
  · rfl
  · next h =>
    rw [passedFor_of_not_named h]
    rfl

theorem forDomain?_of_named {calls : List Call} {domain : String}
    (h : domain ∈ calls.map Call.domain) :
    (run calls).forDomain? domain = some ((run calls).serversOf domain) := by
  rw [forDomain?_run, serversOf_run, if_pos h]

/-- After any calls the domains are distinct and in the order of the first call that names them; a
domain has servers exactly if it was named, and they are the first occurrences of those passed for
it; an insertion tells whether the server was not listed, and changes nothing if it was; a call
leaves the servers and the places of the other domains as they are; and extending by one server or
more is inserting them one by one. -/
theorem run_calls (calls : List Call) :
    let s := run calls
    ((s.domains.map Prod.fst).Nodup ∧
      s.domains.map Prod.fst = (calls.map Call.domain).eraseDups) ∧
    ((∀ d, s.forDomain? d = none ↔ d ∉ calls.map Call.domain) ∧
      (∀ d ∈ calls.map Call.domain, s.forDomain? d = some (passedFor d calls).eraseDups) ∧
      ∀ d servers, s.forDomain? d = some servers → servers.Nodup) ∧
    (∀ d server,
      ((s.insert d server).1 = true ↔
        ∀ servers, s.forDomain? d = some servers → server ∉ servers) ∧
      ((s.insert d server).1 = false → (s.insert d server).2 = s)) ∧
    (∀ call : Call,
      (∀ d, d ≠ call.domain → (call.apply s).forDomain? d = s.forDomain? d) ∧
      (call.apply s).domains.filter (·.1 ≠ call.domain) =
        s.domains.filter (·.1 ≠ call.domain) ∧
      s.domains.map Prod.fst <+: (call.apply s).domains.map Prod.fst) ∧
    ∀ d servers, servers ≠ [] →
      s.extend d servers = servers.foldl (fun s server => (s.insert d server).2) s := by
  intro s
  have hfound := forDomain?_run calls
  refine ⟨⟨?_, names_run calls⟩, ⟨?_, ?_, ?_⟩, ?_, ?_, ?_⟩
  · rw [names_run]
    exact nodup_eraseDups _
  · intro d
    rw [hfound, ite_eq_right_iff]
    exact ⟨fun h hd => Option.some_ne_none _ (h hd), fun h hd => absurd hd h⟩
  · intro d hd
    rw [hfound, if_pos hd]
  · intro d servers h
    rw [hfound, ite_eq_iff] at h
    rcases h with ⟨_, h⟩ | ⟨_, h⟩
    · cases h
      exact nodup_eraseDups _
    · cases h
  · exact fun d server => ⟨insert_fst_eq_true_iff s d server, insert_snd_of_not_new⟩
  · intro call
    simp only [forDomain?, apply_domains]
    exact ⟨fun d hd => lookup_modifyDomain_of_ne hd _ _, filter_modifyDomain _ _ _,
      names_prefix_modifyDomain _ _ _⟩
  · exact fun d servers hne => extend_eq_foldl_insert d hne s

/-- The domain `b` is named without a server, and the second server of `a` differs from the first
one in its flow information only. -/
example : run [.insert "a" (.v6 ⟨#v[0, 0, 0, 0, 0, 0, 0, 1]⟩ 53 0 0), .extend "b" [],
    .extend "a" [.v6 ⟨#v[0, 0, 0, 0, 0, 0, 0, 1]⟩ 53 1 0,
      .v6 ⟨#v[0, 0, 0, 0, 0, 0, 0, 1]⟩ 53 0 0]] =
    ⟨[("a", [.v6 ⟨#v[0, 0, 0, 0, 0, 0, 0, 1]⟩ 53 0 0,
      .v6 ⟨#v[0, 0, 0, 0, 0, 0, 0, 1]⟩ 53 1 0]), ("b", [])]⟩ := by decide

end HostDns.NameServers
