import HostDns.Proofs.NameServers.Calls
import Mathlib.Data.List.Pairwise
import Mathlib.Data.List.Perm.Basic

/-!
The servers of the default domain in the order of a preference.

A preference keeps all servers or those of IPv4, and a server has one family only, so what is put in
front and what is put behind are the listed servers again. Nothing is lost or repeated, and servers of
one family stay in their order; so ordering what is ordered changes nothing.
-/

namespace HostDns

namespace Preference

/-- What a preference makes of servers. -/
def order : Preference → List Socket → List Socket
  | .asListed, servers => servers
  | .ipv4Only, servers => servers.filter Socket.isIpv4
  | .ipv6First, servers => servers.filter Socket.isIpv6 ++ servers.filter Socket.isIpv4

theorem order_ipv6First_perm (servers : List Socket) : (ipv6First.order servers).Perm servers :=
  List.perm_append_comm.trans (List.filter_append_perm Socket.isIpv4 servers)

theorem filter_isIpv4_order (servers : List Socket) :
    (ipv6First.order servers).filter Socket.isIpv4 = servers.filter Socket.isIpv4 := by
  have hother : ∀ s : Socket, (s.isIpv4 && s.isIpv6) = false := fun s => by cases s <;> rfl
  simp [order, List.filter_filter, hother]

theorem filter_isIpv6_order (servers : List Socket) :
    (ipv6First.order servers).filter Socket.isIpv6 = servers.filter Socket.isIpv6 := by
  have hother : ∀ s : Socket, (s.isIpv6 && s.isIpv4) = false := fun s => by cases s <;> rfl
  simp [order, List.filter_filter, hother]

/-- Behind the IPv6 servers there are the IPv4 servers. -/
theorem dropWhile_order_ipv6First (servers : List Socket) :
    (ipv6First.order servers).dropWhile Socket.isIpv6 = ipv4Only.order servers := by
  have hfront : ∀ s ∈ servers.filter Socket.isIpv6, s.isIpv6 = true := fun s hs =>
    (List.mem_filter.mp hs).2
  rw [order, order, List.dropWhile_append_of_pos hfront]
  rcases hback : servers.filter Socket.isIpv4 with _ | ⟨s, rest⟩
  · rfl
  · have hmem : s ∈ servers.filter Socket.isIpv4 := hback ▸ List.mem_cons_self
    have h4 : s.isIpv4 = true := (List.mem_filter.mp hmem).2
    exact List.dropWhile_cons_of_neg (by simp [Socket.isIpv6, h4])

/-- Every IPv6 server stands before every IPv4 server. -/
theorem pairwise_order_ipv6First (servers : List Socket) :
    (ipv6First.order servers).Pairwise fun s t => t.isIpv6 = true → s.isIpv6 = true := by
  refine List.pairwise_append.mpr ⟨?_, ?_, ?_⟩
  · exact List.pairwise_of_forall_mem_list fun s hs _ _ _ => (List.mem_filter.mp hs).2
  · refine List.pairwise_of_forall_mem_list fun s _ t ht ht6 => ?_
    have ht4 : t.isIpv4 = true := (List.mem_filter.mp ht).2
    simp [Socket.isIpv6, ht4] at ht6
  · exact fun s hs _ _ _ => (List.mem_filter.mp hs).2

theorem nodup_order (p : Preference) {servers : List Socket} (h : servers.Nodup) :
    (p.order servers).Nodup := by
  cases p with
  | asListed => exact h
  | ipv4Only => exact h.filter _
  | ipv6First => exact (order_ipv6First_perm servers).nodup_iff.mpr h

/-- Ordering servers once more changes nothing. -/
theorem order_order (p : Preference) (servers : List Socket) :
    p.order (p.order servers) = p.order servers := by
  cases p with
  | asListed => rfl
  | ipv4Only => simp [order, List.filter_filter]
  | ipv6First =>
    calc ipv6First.order (ipv6First.order servers)
        = (ipv6First.order servers).filter Socket.isIpv6 ++
            (ipv6First.order servers).filter Socket.isIpv4 := rfl
      _ = ipv6First.order servers := by rw [filter_isIpv6_order, filter_isIpv4_order, order]

end Preference

namespace NameServers

theorem defaultServers_eq_order (s : NameServers) (p : Preference) :
    s.defaultServers p = p.order (s.serversOf defaultDomain) := by
  cases p <;> rfl

theorem nodup_serversOf_run (calls : List Call) (domain : String) :
    ((run calls).serversOf domain).Nodup := by
  rw [serversOf_run]
  exact nodup_eraseDups _

theorem serversOf_extend_empty (domain : String) {servers : List Socket} (h : servers.Nodup) :
    (empty.extend domain servers).serversOf domain = servers := by
  have hadded : servers.foldl addServer [] = servers.eraseDups := foldl_addServer_eraseDups servers []
  rw [serversOf, forDomain?, extend, lookup_modifyDomain_self, Option.getD_some]
  exact hadded.trans (eraseDups_of_nodup h)

/-- A domain of a store without servers has none. -/
theorem serversOf_of_isEmpty {s : NameServers} (h : s.isEmpty = true) (domain : String) :
    s.serversOf domain = [] := by
  rw [serversOf]
  rcases hfound : s.forDomain? domain with _ | servers
  · rfl
  · obtain ⟨before, after, hdomains, -⟩ := List.lookup_eq_some_iff.mp hfound
    have hmem : (domain, servers) ∈ s.domains := by
      rw [hdomains]
      exact List.mem_append_right _ List.mem_cons_self
    exact List.isEmpty_iff.mp (List.all_eq_true.mp h _ hmem)

/-- The servers of the default domain of any store are listed as they were given; the IPv4 ones are
those of them that are IPv4; and with the IPv6 ones first there are all of them, every IPv6 server
before every IPv4 server, the servers of one family in the order of the list, so that they end with the
IPv4 ones. None of these lists repeats a server, and a new store of such a list gives the same list for
the same preference. There are servers exactly if the list is not empty, whether in its own order or
with the IPv6 ones first, and where no domain has a server no list has one. -/
theorem defaultServers_by_preference (calls : List Call) :
    let s := run calls
    let listed := s.defaultServers .asListed
    let first := s.defaultServers .ipv6First
    (∀ servers, s.forDomain? defaultDomain = some servers → listed = servers) ∧
    (s.forDomain? defaultDomain = none → listed = []) ∧
    s.defaultServers .ipv4Only = listed.filter Socket.isIpv4 ∧
    (first.Perm listed ∧
      first.Pairwise (fun a b => b.isIpv6 = true → a.isIpv6 = true) ∧
      first.filter Socket.isIpv6 = listed.filter Socket.isIpv6 ∧
      first.filter Socket.isIpv4 = listed.filter Socket.isIpv4 ∧
      first.dropWhile Socket.isIpv6 = s.defaultServers .ipv4Only) ∧
    (∀ p, (s.defaultServers p).Nodup) ∧
    (∀ p, (empty.extend defaultDomain (s.defaultServers p)).defaultServers p = s.defaultServers p) ∧
    ((s.hasDefaultServers = true ↔ listed ≠ []) ∧ (s.hasDefaultServers = true ↔ first ≠ [])) ∧
    (s.isEmpty = true → ∀ p, s.defaultServers p = []) := by
  intro s listed first
  have hlisted : listed = s.serversOf defaultDomain := s.defaultServers_eq_order .asListed
  have hfirst : first = Preference.ipv6First.order listed := by
    rw [hlisted]
    exact s.defaultServers_eq_order .ipv6First
  have hfour : s.defaultServers .ipv4Only = Preference.ipv4Only.order listed := by
    rw [hlisted]
    exact s.defaultServers_eq_order .ipv4Only
  have hnodup : ∀ p, (s.defaultServers p).Nodup := by
    intro p
    rw [defaultServers_eq_order]
    exact p.nodup_order (nodup_serversOf_run calls defaultDomain)
  have hperm : first.Perm listed := hfirst ▸ Preference.order_ipv6First_perm listed
  have hhas : s.hasDefaultServers = true ↔ listed ≠ [] := by
    rw [hasDefaultServers, ← hlisted, Bool.not_eq_true', ← Bool.not_eq_true, List.isEmpty_iff]
  refine ⟨fun servers h => ?_, fun h => ?_, hfour, ⟨hperm, ?_, ?_, ?_, ?_⟩, hnodup, fun p => ?_,
    ⟨hhas, ?_⟩, fun h p => ?_⟩
  · rw [hlisted, serversOf, h, Option.getD_some]
  · rw [hlisted, serversOf, h, Option.getD_none]
  · exact hfirst ▸ Preference.pairwise_order_ipv6First listed
  · exact hfirst ▸ Preference.filter_isIpv6_order listed
  · exact hfirst ▸ Preference.filter_isIpv4_order listed
  · rw [hfour, hfirst, Preference.dropWhile_order_ipv6First]
  · rw [defaultServers_eq_order, serversOf_extend_empty defaultDomain (hnodup p),
      defaultServers_eq_order, Preference.order_order]
  · rw [hhas, ne_eq, ne_eq, ← List.length_eq_zero_iff, ← List.length_eq_zero_iff, hperm.length_eq]
  · rw [defaultServers_eq_order, serversOf_of_isEmpty h]
    cases p <;> rfl

-- The default domain is named behind another one, and its IPv6 servers differ in their scope only.
example : (run [.extend "a" [.v4 ⟨10, 0, 0, 9⟩ 53], .extend "" [.v4 ⟨10, 0, 0, 1⟩ 53,
      .v6 ⟨#v[0xFE80, 0, 0, 0, 0, 0, 0, 1]⟩ 53 0 3, .v4 ⟨10, 0, 0, 2⟩ 53,
      .v6 ⟨#v[0xFE80, 0, 0, 0, 0, 0, 0, 1]⟩ 53 0 4]]).defaultServers .ipv6First =
    [.v6 ⟨#v[0xFE80, 0, 0, 0, 0, 0, 0, 1]⟩ 53 0 3, .v6 ⟨#v[0xFE80, 0, 0, 0, 0, 0, 0, 1]⟩ 53 0 4,
      .v4 ⟨10, 0, 0, 1⟩ 53, .v4 ⟨10, 0, 0, 2⟩ 53] := by decide

end NameServers

end HostDns
