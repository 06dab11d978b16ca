import HostDns.Proofs.Adapter.Document
import HostDns.Proofs.NameServers.Calls

/-!
A store of name servers is told by its document.

The document has a member for each domain of the store, in its order, with the texts of the servers of
that domain. A text shows all of a server but its flow information, so stores without any are told apart
by their documents. That no key comes up twice rests on the calls that built the store.
-/

namespace HostDns

/-- The flow information of a socket, which is zero for an IPv4 one. -/
def Socket.flowInfo : Socket → UInt32
  | .v4 .. => 0
  | .v6 _ _ flowInfo _ => flowInfo

theorem Socket.withoutFlowInfo_of_flowInfo {s : Socket} (h : s.flowInfo = 0) :
    s.withoutFlowInfo = s := by
  cases s with
  | v4 address port => rfl
  | v6 address port flowInfo scope =>
    obtain rfl : flowInfo = 0 := h
    rfl

namespace NameServers

/-- The store with the flow information of each of its servers cleared. -/
def withoutFlowInfo (s : NameServers) : NameServers :=
  ⟨s.domains.map fun entry => (entry.1, entry.2.map Socket.withoutFlowInfo)⟩

/-- Whether no server of a store has flow information. -/
def FreeOfFlowInfo (s : NameServers) : Prop :=
  ∀ entry ∈ s.domains, ∀ server ∈ entry.2, server.flowInfo = 0

instance (s : NameServers) : Decidable s.FreeOfFlowInfo :=
  inferInstanceAs (Decidable (∀ entry ∈ s.domains, ∀ server ∈ entry.2, server.flowInfo = 0))

/-- A store without flow information has none to be cleared. -/
theorem FreeOfFlowInfo.withoutFlowInfo_eq {s : NameServers} (h : s.FreeOfFlowInfo) :
    s.withoutFlowInfo = s := by
  have hentry : ∀ entry ∈ s.domains,
      (entry.1, entry.2.map Socket.withoutFlowInfo) = id entry := by
    intro entry hentry
    have hservers : entry.2.map Socket.withoutFlowInfo = entry.2.map id :=
      List.map_congr_left fun server hserver =>
        Socket.withoutFlowInfo_of_flowInfo (h entry hentry server hserver)
    rw [hservers, List.map_id, id]
  rw [withoutFlowInfo, List.map_congr_left hentry, List.map_id]

/-- A store keeps in its document all but the flow information of its servers. -/
theorem json_eq_iff (s t : NameServers) :
    s.json = t.json ↔ s.withoutFlowInfo = t.withoutFlowInfo := by
  have hentry : ∀ e e' : String × List Socket,
      (e.1, Socket.jsonList e.2) = (e'.1, Socket.jsonList e'.2) ↔
        (e.1, e.2.map Socket.withoutFlowInfo) = (e'.1, e'.2.map Socket.withoutFlowInfo) := by
    intro e e'
    rw [Prod.mk.injEq, Socket.jsonList_eq_iff, Prod.mk.injEq]
  rw [json, json, Json.obj.injEq, withoutFlowInfo, withoutFlowInfo, NameServers.mk.injEq]
  exact Json.map_eq_map_iff hentry

/-- The compact text of the document of any store is that of an object, and of no other document; its
keys are the domains of the store in their order, and none comes up twice. The text tells all of the
store but the flow information of its servers, so stores without flow information have the same text
exactly if they are the same: the same domains in the same order, with the same servers in the same
order, whatever the domains are called. -/
theorem compactText_tells_store (calls : List Call) :
    let s := run calls
    (∃ members, s.json = .obj members ∧
      members.map Prod.fst = s.domains.map Prod.fst ∧ (members.map Prod.fst).Nodup ∧
      ∀ j : Json, j.compactText = s.json.compactText → j = .obj members) ∧
    (∀ calls', s.json.compactText = (run calls').json.compactText ↔
      s.withoutFlowInfo = (run calls').withoutFlowInfo) ∧
    ∀ calls', s.FreeOfFlowInfo → (run calls').FreeOfFlowInfo →
      (s.json.compactText = (run calls').json.compactText ↔ s = run calls') := by
  intro s
  have hkeys : ∀ domains : List (String × List Socket),
      (domains.map fun entry => (entry.1, Socket.jsonList entry.2)).map Prod.fst =
        domains.map Prod.fst := fun domains => List.map_map
  have htext : ∀ calls', s.json.compactText = (run calls').json.compactText ↔
      s.withoutFlowInfo = (run calls').withoutFlowInfo := fun calls' => by
    rw [Json.compactText_inj, json_eq_iff]
  refine ⟨⟨_, rfl, hkeys s.domains, ?_, fun j => Json.compactText_inj.mp⟩, htext,
    fun calls' hs hs' => ?_⟩
  · rw [hkeys, names_run]
    exact nodup_eraseDups _
  · rw [htext, hs.withoutFlowInfo_eq, hs'.withoutFlowInfo_eq]

/-- The names of the domains need escapes or are empty, and the two servers differ in their scope only. -/
theorem compactText_tells_store_escaped :
    let calls (scope : UInt32) : List Call :=
      [.insert "a\"b\\\n" (.v6 ⟨#v[0xFE80, 0, 0, 0, 0, 0, 0, 1]⟩ 53 0 scope), .extend "" []]
    (run (calls 3)).FreeOfFlowInfo ∧ (run (calls 4)).FreeOfFlowInfo ∧
      (run (calls 3)).json.compactText ≠ (run (calls 4)).json.compactText := by
  intro calls
  have hfree : (run (calls 3)).FreeOfFlowInfo ∧ (run (calls 4)).FreeOfFlowInfo := by decide
  refine ⟨hfree.1, hfree.2, fun htext => ?_⟩
  have hsame := ((compactText_tells_store (calls 3)).2.2 (calls 4) hfree.1 hfree.2).mp htext
  exact absurd hsame (by decide)

end NameServers

end HostDns
