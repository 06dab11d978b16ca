import HostDns.Proofs.Adapter.Identifier
import HostDns.Proofs.Address.Sockets
import HostDns.Proofs.Json
import HostDns.Report

/-!
Adapters are told apart by their documents, but for the flow information of their sockets.

Each part of an adapter has a document that tells it apart, and an adapter is a document that names
them all. What a socket keeps in its document is the socket without its flow information, and lists and
options of sockets keep just as much.
-/

namespace HostDns

/-! ### Documents of numbers, lists and options -/

namespace Json

theorem nat_inj {m n : Nat} : nat m = nat n ↔ m = n := by
  rw [nat, nat, int.injEq, Int.natCast_inj]

variable {α β : Type} {encode : α → Json} {keep : α → β}

/-- Lists keep in their images what each of their elements keeps. -/
theorem map_eq_map_iff {γ : Type} {f : α → γ} (h : ∀ a b, f a = f b ↔ keep a = keep b)
    {l l' : List α} : l.map f = l'.map f ↔ l.map keep = l'.map keep := by
  induction l generalizing l' with
  | nil => simp [eq_comm]
  | cons a l ih =>
    rcases l' with _ | ⟨b, l'⟩
    · simp
    · rw [List.map_cons, List.map_cons, List.cons.injEq, h, ih, List.map_cons, List.map_cons,
        List.cons.injEq]

theorem arr_map_eq_iff (h : ∀ a b, encode a = encode b ↔ keep a = keep b) {l l' : List α} :
    arr (l.map encode) = arr (l'.map encode) ↔ l.map keep = l'.map keep := by
  rw [arr.injEq, map_eq_map_iff h]

theorem arr_map_inj (h : ∀ a b, encode a = encode b ↔ a = b) {l l' : List α} :
    arr (l.map encode) = arr (l'.map encode) ↔ l = l' := by
  have hkeep : ∀ a b, encode a = encode b ↔ id a = id b := h
  rw [arr_map_eq_iff hkeep, List.map_id, List.map_id]

theorem orNull_map_eq_iff (hnull : ∀ a, encode a ≠ .null)
    (h : ∀ a b, encode a = encode b ↔ keep a = keep b) {o o' : Option α} :
    orNull (o.map encode) = orNull (o'.map encode) ↔ o.map keep = o'.map keep := by
  rcases o with _ | a <;> rcases o' with _ | b
  · simp
  · simp [orNull, (hnull b).symm]
  · simp [orNull, hnull a]
  · simp [orNull, h]

end Json

/-! ### Sockets and what holds them -/

namespace Socket

theorem json_eq_iff (s t : Socket) : s.json = t.json ↔ s.withoutFlowInfo = t.withoutFlowInfo := by
  rw [json, json, Json.str.injEq, text_inj]

theorem jsonList_eq_iff {l l' : List Socket} :
    jsonList l = jsonList l' ↔ l.map withoutFlowInfo = l'.map withoutFlowInfo :=
  Json.arr_map_eq_iff json_eq_iff

theorem orNull_json_eq_iff {o o' : Option Socket} :
    Json.orNull (o.map json) = Json.orNull (o'.map json) ↔
      o.map withoutFlowInfo = o'.map withoutFlowInfo :=
  Json.orNull_map_eq_iff (fun _ h => by cases h) json_eq_iff

end Socket

namespace UnicastAddress

/-- The unicast address with the flow information of its socket cleared. -/
def withoutFlowInfo (u : UnicastAddress) : UnicastAddress :=
  { u with address := u.address.withoutFlowInfo }

theorem json_eq_iff (u v : UnicastAddress) :
    u.json = v.json ↔ u.withoutFlowInfo = v.withoutFlowInfo := by
  simp [json, withoutFlowInfo, Socket.json_eq_iff, Json.nat_inj, UInt32.toNat_inj,
    UInt8.toNat_inj, Int32.toInt_inj]

end UnicastAddress

namespace AddressPrefix

/-- The address prefix with the flow information of its socket cleared. -/
def withoutFlowInfo (p : AddressPrefix) : AddressPrefix :=
  { p with address := p.address.withoutFlowInfo }

theorem json_eq_iff (p q : AddressPrefix) :
    p.json = q.json ↔ p.withoutFlowInfo = q.withoutFlowInfo := by
  simp [json, withoutFlowInfo, Socket.json_eq_iff, Json.nat_inj, UInt32.toNat_inj]

end AddressPrefix

/-! ### Sorts, states and zones -/

theorem AdapterKind.json_inj {k k' : AdapterKind} : k.json = k'.json ↔ k = k' := by
  cases k <;> cases k' <;> simp [json, text, Json.nat_inj, UInt32.toNat_inj]

theorem OperStatus.json_inj {s s' : OperStatus} : s.json = s'.json ↔ s = s' := by
  cases s <;> cases s' <;> simp [json, text, Json.nat_inj, UInt32.toNat_inj]

theorem zoneIndices_json_inj {n : Nat} {zones zones' : Vector UInt32 n} :
    Json.arr (zones.toList.map fun z => .nat z.toNat) =
      Json.arr (zones'.toList.map fun z => .nat z.toNat) ↔ zones = zones' := by
  rw [Json.arr_map_inj fun a b => by rw [Json.nat_inj, UInt32.toNat_inj], Vector.toList_inj]

theorem texts_json_inj {texts texts' : List String} :
    Json.arr (texts.map .str) = Json.arr (texts'.map .str) ↔ texts = texts' :=
  Json.arr_map_inj fun a b => by rw [Json.str.injEq]

/-! ### Adapters -/

namespace Adapter

/-- The adapter with the flow information of each of its sockets cleared. -/
def withoutFlowInfo (a : Adapter) : Adapter :=
  { a with
    dhcpv4Server := a.dhcpv4Server.map Socket.withoutFlowInfo
    dhcpv6Server := a.dhcpv6Server.map Socket.withoutFlowInfo
    unicast := a.unicast.map UnicastAddress.withoutFlowInfo
    anycast := a.anycast.map Socket.withoutFlowInfo
    multicast := a.multicast.map Socket.withoutFlowInfo
    dnsServers := a.dnsServers.map Socket.withoutFlowInfo
    prefixes := a.prefixes.map AddressPrefix.withoutFlowInfo
    winsServers := a.winsServers.map Socket.withoutFlowInfo
    gateways := a.gateways.map Socket.withoutFlowInfo }

theorem json_eq_iff (a b : Adapter) : a.json = b.json ↔ a.withoutFlowInfo = b.withoutFlowInfo := by
  simp only [json, withoutFlowInfo, Json.obj.injEq, List.cons.injEq, Prod.mk.injEq, true_and,
    and_true, Adapter.mk.injEq, Json.str.injEq, Json.int.injEq, Json.nat_inj, UInt32.toNat_inj,
    UInt64.toNat_inj, Int32.toInt_inj, AdapterFlags.bits_inj, Luid.value_inj, AdapterKind.json_inj,
    OperStatus.json_inj, PhysicalAddress.text_inj, Duid.text_inj, Guid.text_inj, zoneIndices_json_inj,
    texts_json_inj, Socket.jsonList_eq_iff, Socket.orNull_json_eq_iff,
    Json.arr_map_eq_iff UnicastAddress.json_eq_iff, Json.arr_map_eq_iff AddressPrefix.json_eq_iff]

/-- Adapters, and listings of them, with the same document are the same adapters but for the flow
information of their sockets. -/
theorem documents_eq_iff :
    (∀ a b : Adapter,
      (a.json.compactText = b.json.compactText ↔ a.withoutFlowInfo = b.withoutFlowInfo) ∧
      (a.json.prettyText = b.json.prettyText ↔ a.withoutFlowInfo = b.withoutFlowInfo)) ∧
    ∀ list list' : List Adapter,
      Report.adapters true list = Report.adapters true list' ↔
        list.map withoutFlowInfo = list'.map withoutFlowInfo := by
  refine ⟨fun a b => ⟨?_, ?_⟩, fun list list' => ?_⟩
  · rw [Json.compactText_inj, json_eq_iff]
  · rw [Json.prettyText_inj, json_eq_iff]
  · rw [Report.adapters, Report.adapters, if_pos rfl, if_pos rfl, String.append_left_inj,
      Json.prettyText_inj, Report.adaptersJson, Report.adaptersJson, Json.arr_map_eq_iff json_eq_iff]

end Adapter

end HostDns
