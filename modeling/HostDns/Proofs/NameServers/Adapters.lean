import HostDns.Discovery
import HostDns.Proofs.NameServers.Calls

/-!
The name servers of adapters.

The adapters that are up are gone through in order, and the servers of each in order. The address of
every server that is no placeholder is inserted into the default domain on the usual port, so the store
has no other domain, and lists every address once, where it comes up first.

Only the address is taken over from a server. With its port goes its scope, so servers in different
scopes are one server, which has none.
-/

namespace HostDns

/-- Whether an address is a placeholder: an IPv6 address in `fec0::/10`, from `fec0::` up to the last
address that starts with `feff`. -/
def Ip.IsPlaceholder : Ip → Prop
  | .v4 _ => False
  | .v6 address =>
    ∃ first ∈ address.groups.toList.head?, (0xFEC0 : UInt16) ≤ first ∧ first ≤ (0xFEFF : UInt16)

/-- A socket on another port. -/
def Socket.onPort (port : UInt16) : Socket → Socket
  | .v4 address _ => .v4 address port
  | .v6 address _ flowInfo scope => .v6 address port flowInfo scope

@[simp]
theorem Socket.ip_onPort (port : UInt16) (s : Socket) : (s.onPort port).ip = s.ip := by
  cases s <;> rfl

@[simp]
theorem Socket.ip_ofIp (ip : Ip) (port : UInt16) : (Socket.ofIp ip port).ip = ip := by
  cases ip <;> rfl

@[simp]
theorem Socket.port_ofIp (ip : Ip) (port : UInt16) : (Socket.ofIp ip port).port = port := by
  cases ip <;> rfl

theorem and_clear_six {n : Nat} (h : n < 65536) : n &&& 0xFFC0 = n / 64 * 64 := by
  have hlow : (n &&& 0xFFC0) % 2 ^ 6 = 0 := by
    rw [Nat.and_mod_two_pow, show 0xFFC0 % 2 ^ 6 = 0 from rfl, Nat.and_zero]
  have hhigh : (n &&& 0xFFC0) / 2 ^ 6 = n / 64 := by
    rw [Nat.and_div_two_pow, show 0xFFC0 / 2 ^ 6 = 2 ^ 10 - 1 from rfl,
      Nat.and_two_pow_sub_one_eq_mod, Nat.mod_eq_of_lt (by omega)]
  omega

/-- The first ten bits tell whether an IPv6 address is a placeholder. -/
theorem Ipv6.isSiteLocal_iff (address : Ipv6) :
    address.isSiteLocal = true ↔ (Ip.v6 address).IsPlaceholder := by
  have hfirst : address.groups.toList.head? = some address.groups[0] := by
    rw [List.head?_eq_getElem?, Vector.getElem?_toList, Vector.getElem?_eq_getElem]
  have hlt : address.groups[0].toNat < 65536 := address.groups[0].toNat_lt
  rw [isSiteLocal, Ip.IsPlaceholder, hfirst, beq_iff_eq, ← UInt16.toNat_inj, UInt16.toNat_and]
  simp only [Option.mem_some_iff, exists_eq_left', UInt16.le_iff_toNat_le, UInt16.reduceToNat,
    and_clear_six hlt]
  omega

instance : DecidablePred Ip.IsPlaceholder
  | .v4 _ => inferInstanceAs (Decidable False)
  | .v6 address => decidable_of_iff _ address.isSiteLocal_iff

namespace NameServers

/-- The addresses that adapters offer: those of the servers of adapters that are up, in order, without
placeholders. -/
def offered (adapters : List Adapter) : List Ip :=
  (((adapters.filter (·.operStatus = .up)).flatMap (·.dnsServers)).map Socket.ip).filter
    (¬·.IsPlaceholder)

/-- An address is offered by an adapter that is up and has a server there. -/
theorem mem_offered_iff {adapters : List Adapter} {ip : Ip} :
    ip ∈ offered adapters ↔ ¬ip.IsPlaceholder ∧
      ∃ a ∈ adapters, a.operStatus = .up ∧ ∃ server ∈ a.dnsServers, server.ip = ip := by
  simp only [offered, List.mem_filter, List.mem_map, List.mem_flatMap, decide_eq_true_eq]
  constructor
  · rintro ⟨⟨server, ⟨a, ⟨ha, hup⟩, hserver⟩, hip⟩, h⟩
    exact ⟨h, a, ha, hup, server, hserver, hip⟩
  · rintro ⟨h, a, ha, hup, server, hserver, hip⟩
    exact ⟨⟨server, ⟨a, ⟨ha, hup⟩, hserver⟩, hip⟩, h⟩

/-- Ports play no part in what is offered. -/
theorem offered_eq_onPort (port : UInt16) (adapters : List Adapter) :
    offered adapters =
      ((((adapters.filter (·.operStatus = .up)).map fun a =>
        a.dnsServers.map (·.onPort port)).flatten).map Socket.ip).filter (¬·.IsPlaceholder) := by
  have hips : ∀ servers : List Socket,
      (servers.map (·.onPort port)).map Socket.ip = servers.map Socket.ip := by
    intro servers
    rw [List.map_map]
    exact List.map_congr_left fun s _ => s.ip_onPort port
  rw [offered, ← List.flatMap_def, List.map_flatMap, List.map_flatMap]
  simp only [hips]

/-- The store is built from the offered addresses one by one. -/
theorem ofAdapters_eq_foldl (adapters : List Adapter) :
    ofAdapters adapters = (offered adapters).foldl
      (fun s ip => (s.insert defaultDomain (.ofIp ip dnsPort)).2) empty := by
  have husable : (fun ip : Ip => decide ¬ip.IsPlaceholder) = fun
      | .v4 _ => true
      | .v6 address => !address.isSiteLocal := by
    funext ip
    cases ip with
    | v4 address => rfl
    | v6 address =>
      dsimp only
      rw [← Bool.decide_coe address.isSiteLocal, decide_not]
      simp only [address.isSiteLocal_iff]
  rw [ofAdapters, offered, List.map_flatMap, husable]
  rfl

theorem ofAdapters_of_offered_eq_nil {adapters : List Adapter} (h : offered adapters = []) :
    ofAdapters adapters = empty := by
  rw [ofAdapters_eq_foldl, h, List.foldl_nil]

/-- Where addresses are offered, the default domain lists the first occurrence of each. -/
theorem ofAdapters_of_offered_ne_nil {adapters : List Adapter} (h : offered adapters ≠ []) :
    ofAdapters adapters =
      ⟨[(defaultDomain, (offered adapters).eraseDups.map (Socket.ofIp · dnsPort))]⟩ := by
  have hinjective : Function.Injective (Socket.ofIp · dnsPort) :=
    Function.LeftInverse.injective fun ip => Socket.ip_ofIp ip dnsPort
  have hservers : (offered adapters).map (Socket.ofIp · dnsPort) ≠ [] := mt List.map_eq_nil_iff.mp h
  have hinserted := extend_eq_foldl_insert defaultDomain hservers empty
  have hfirst : ((offered adapters).map (Socket.ofIp · dnsPort)).foldl addServer [] =
      ((offered adapters).map (Socket.ofIp · dnsPort)).eraseDups :=
    foldl_addServer_eraseDups _ []
  rw [List.foldl_map] at hinserted
  rw [ofAdapters_eq_foldl, ← hinserted, extend, empty, modifyDomain, hfirst,
    eraseDups_map hinjective]

/-- The servers of the default domain are made of the first occurrences of the offered addresses. -/
theorem serversOf_ofAdapters (adapters : List Adapter) :
    (ofAdapters adapters).serversOf defaultDomain =
      (offered adapters).eraseDups.map (Socket.ofIp · dnsPort) := by
  by_cases h : offered adapters = []
  · rw [ofAdapters_of_offered_eq_nil h, h]
    rfl
  · rw [ofAdapters_of_offered_ne_nil h]
    rfl

theorem map_ip_ofIp (ips : List Ip) :
    (ips.map (Socket.ofIp · dnsPort)).map Socket.ip = ips := by
  rw [List.map_map]
  exact List.map_id'' (fun ip => Socket.ip_ofIp ip dnsPort) ips

/-- Where every server of the adapters that are up is a placeholder, there is no domain. Otherwise there
is the default domain alone. Its addresses are the first occurrences of those that the adapters that are
up list, in order, without placeholders, so none of the others is missing; no two servers have the same
address, and each has the usual port. The adapters that are not up play no part, wherever they stand, nor
do the ports of any server. -/
theorem ofAdapters_lists_offered (adapters : List Adapter) :
    let s := ofAdapters adapters
    ((∀ a ∈ adapters, a.operStatus = .up → ∀ server ∈ a.dnsServers, server.ip.IsPlaceholder) →
      s = empty) ∧
    ((∃ a ∈ adapters, a.operStatus = .up ∧ ∃ server ∈ a.dnsServers, ¬server.ip.IsPlaceholder) →
      ∃ servers, s = ⟨[(defaultDomain, servers)]⟩ ∧
        servers.map Socket.ip = (offered adapters).eraseDups ∧ (servers.map Socket.ip).Nodup ∧
        ∀ server ∈ servers, server.port = 53) ∧
    (∀ a ∈ adapters, a.operStatus = .up → ∀ server ∈ a.dnsServers, ¬server.ip.IsPlaceholder →
      server.ip ∈ (s.serversOf defaultDomain).map Socket.ip) ∧
    ∀ (adapters' : List Adapter) (port : UInt16),
      (adapters'.filter (·.operStatus = .up)).map (fun a => a.dnsServers.map (·.onPort port)) =
        (adapters.filter (·.operStatus = .up)).map (fun a => a.dnsServers.map (·.onPort port)) →
      ofAdapters adapters' = s := by
  intro s
  refine ⟨fun hnone => ?_, ?_, ?_, fun adapters' port hsame => ?_⟩
  · refine ofAdapters_of_offered_eq_nil (List.eq_nil_iff_forall_not_mem.mpr fun ip hip => ?_)
    obtain ⟨hkept, a, ha, hup, server, hserver, rfl⟩ := mem_offered_iff.mp hip
    exact hkept (hnone a ha hup server hserver)
  · rintro ⟨a, ha, hup, server, hserver, hkept⟩
    have hmem : server.ip ∈ offered adapters :=
      mem_offered_iff.mpr ⟨hkept, a, ha, hup, server, hserver, rfl⟩
    refine ⟨_, ofAdapters_of_offered_ne_nil (List.ne_nil_of_mem hmem), map_ip_ofIp _, ?_, ?_⟩
    · rw [map_ip_ofIp]
      exact nodup_eraseDups _
    · intro server hserver
      obtain ⟨ip, -, rfl⟩ := List.mem_map.mp hserver
      exact Socket.port_ofIp ip dnsPort
  · intro a ha hup server hserver hkept
    rw [serversOf_ofAdapters, map_ip_ofIp, List.mem_eraseDups]
    exact mem_offered_iff.mpr ⟨hkept, a, ha, hup, server, hserver, rfl⟩
  · have hoffered : offered adapters' = offered adapters := by
      rw [offered_eq_onPort port, hsame, ← offered_eq_onPort port]
    rw [ofAdapters_eq_foldl, hoffered, ← ofAdapters_eq_foldl]

-- The neighbours of the range are kept and so is an IPv4 address with its bits; a server that comes up
-- again on another port is not listed again.
example : ofAdapters
    [{ Adapter.named 1 "a" .ethernet with
        operStatus := .other 1, dnsServers := [.v4 ⟨10, 0, 0, 9⟩ 53] },
      { Adapter.named 2 "b" .ethernet with
        dnsServers := [.v4 ⟨254, 192, 0, 1⟩ 0, .v6 ⟨#v[0xFEC0, 0, 0, 0, 0, 0, 0, 1]⟩ 53 0 0,
          .v6 ⟨#v[0xFEBF, 0, 0, 0, 0, 0, 0, 1]⟩ 53 7 0] },
      { Adapter.named 3 "c" .ethernet with
        dnsServers := [.v4 ⟨254, 192, 0, 1⟩ 5353, .v6 ⟨#v[0xFEFF, 0, 0, 0, 0, 0, 0, 1]⟩ 53 0 0,
          .v6 ⟨#v[0xFF00, 0, 0, 0, 0, 0, 0, 1]⟩ 53 0 0] }] =
    ⟨[("", [.v4 ⟨254, 192, 0, 1⟩ 53, .v6 ⟨#v[0xFEBF, 0, 0, 0, 0, 0, 0, 1]⟩ 53 0 0,
      .v6 ⟨#v[0xFF00, 0, 0, 0, 0, 0, 0, 1]⟩ 53 0 0])]⟩ := by decide

/-- An IPv6 server that is no placeholder is reported once by its address, with scope zero whatever its
scope is. So it is reported with its scope only if that is zero. -/
theorem ofAdapters_clears_scope {adapters : List Adapter} {a : Adapter} (ha : a ∈ adapters)
    (hup : a.operStatus = .up) {address : Ipv6} {port : UInt16} {flowInfo scope : UInt32}
    (hserver : Socket.v6 address port flowInfo scope ∈ a.dnsServers)
    (hkept : ¬(Ip.v6 address).IsPlaceholder) :
    let servers := (ofAdapters adapters).serversOf defaultDomain
    servers.filter (·.ip = .v6 address) = [.v6 address 53 0 0] ∧
      ((∃ flowInfo', Socket.v6 address 53 flowInfo' scope ∈ servers) ↔ scope = 0) := by
  intro servers
  have hmem : Ip.v6 address ∈ (offered adapters).eraseDups :=
    List.mem_eraseDups.mpr (mem_offered_iff.mpr ⟨hkept, a, ha, hup, _, hserver, rfl⟩)
  have hfilter : servers.filter (·.ip = .v6 address) = [.v6 address 53 0 0] := by
    rw [show servers = _ from serversOf_ofAdapters adapters, List.filter_map]
    simp only [Function.comp_def, Socket.ip_ofIp]
    rw [List.filter_eq, List.count_eq_one_of_mem (nodup_eraseDups _) hmem]
    rfl
  have hof : ∀ server ∈ servers, server.ip = .v6 address → server = .v6 address 53 0 0 := by
    intro server hserver hip
    have hlisted : server ∈ servers.filter (·.ip = .v6 address) :=
      List.mem_filter.mpr ⟨hserver, decide_eq_true hip⟩
    rwa [hfilter, List.mem_singleton] at hlisted
  refine ⟨hfilter, ?_, ?_⟩
  · rintro ⟨flowInfo', h⟩
    have heq := hof _ h rfl
    cases heq
    rfl
  · rintro rfl
    have hlisted : Socket.v6 address 53 0 0 ∈ servers.filter (·.ip = .v6 address) := by
      rw [hfilter]
      exact List.mem_singleton_self _
    exact ⟨0, (List.mem_filter.mp hlisted).1⟩

/-- An adapter with a server of the same address in each of two scopes. -/
def inTwoScopes (address : Ipv6) : Adapter :=
  { Adapter.named 1 "Ethernet" .ethernet with
    dnsServers := [.v6 address 53 0 3, .v6 address 53 0 4] }

/-- The link-local server in scope three is reported once, and not in that scope. -/
theorem ofAdapters_clears_scope_linkLocal :
    ((inTwoScopes ⟨#v[0xFE80, 0, 0, 0, 0, 0, 0, 1]⟩).operStatus = .up ∧
      .v6 ⟨#v[0xFE80, 0, 0, 0, 0, 0, 0, 1]⟩ 53 0 3 ∈
        (inTwoScopes ⟨#v[0xFE80, 0, 0, 0, 0, 0, 0, 1]⟩).dnsServers ∧
      ¬(Ip.v6 ⟨#v[0xFE80, 0, 0, 0, 0, 0, 0, 1]⟩).IsPlaceholder) ∧
    ((ofAdapters [inTwoScopes ⟨#v[0xFE80, 0, 0, 0, 0, 0, 0, 1]⟩]).serversOf defaultDomain).filter
        (·.ip = .v6 ⟨#v[0xFE80, 0, 0, 0, 0, 0, 0, 1]⟩) =
      [.v6 ⟨#v[0xFE80, 0, 0, 0, 0, 0, 0, 1]⟩ 53 0 0] ∧
    ¬∃ flowInfo, .v6 ⟨#v[0xFE80, 0, 0, 0, 0, 0, 0, 1]⟩ 53 flowInfo 3 ∈
      (ofAdapters [inTwoScopes ⟨#v[0xFE80, 0, 0, 0, 0, 0, 0, 1]⟩]).serversOf defaultDomain := by
  have hup : (inTwoScopes ⟨#v[0xFE80, 0, 0, 0, 0, 0, 0, 1]⟩).operStatus = .up := rfl
  have hserver : .v6 ⟨#v[0xFE80, 0, 0, 0, 0, 0, 0, 1]⟩ 53 0 3 ∈
      (inTwoScopes ⟨#v[0xFE80, 0, 0, 0, 0, 0, 0, 1]⟩).dnsServers := List.mem_cons_self
  have hkept : ¬(Ip.v6 ⟨#v[0xFE80, 0, 0, 0, 0, 0, 0, 1]⟩).IsPlaceholder := by decide
  obtain ⟨hone, hscope⟩ := ofAdapters_clears_scope List.mem_cons_self hup hserver hkept
  exact ⟨⟨hup, hserver, hkept⟩, hone, fun h => absurd (hscope.mp h) (by decide)⟩

/-- Two link-local servers in different scopes become one, which is in neither scope. -/
theorem ofAdapters_merges_scopes :
    ofAdapters [inTwoScopes ⟨#v[0xFE80, 0, 0, 0, 0, 0, 0, 1]⟩] =
        ⟨[("", [.v6 ⟨#v[0xFE80, 0, 0, 0, 0, 0, 0, 1]⟩ 53 0 0])]⟩ ∧
      ∀ server ∈ (ofAdapters [inTwoScopes ⟨#v[0xFE80, 0, 0, 0, 0, 0, 0, 1]⟩]).serversOf defaultDomain,
        server ∉ (inTwoScopes ⟨#v[0xFE80, 0, 0, 0, 0, 0, 0, 1]⟩).dnsServers := by
  have hbuilt : ofAdapters [inTwoScopes ⟨#v[0xFE80, 0, 0, 0, 0, 0, 0, 1]⟩] =
      ⟨[("", [.v6 ⟨#v[0xFE80, 0, 0, 0, 0, 0, 0, 1]⟩ 53 0 0])]⟩ := by decide
  exact ⟨hbuilt, by rw [hbuilt]; decide⟩

end NameServers

end HostDns
