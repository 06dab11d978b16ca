import HostDns.Config.Settings
import HostDns.Proofs.Address.Sockets

/-!
The servers that a configuration names.

A text between blanks is a socket, or an address that is reached at the usual port. Written sockets and
addresses are words, so the blanks around them are cut off and they are read back. No text is both, so
it does not matter which of the two is tried first.
-/

namespace HostDns.Config

/-- What is left of a text without the blanks around it. -/
def trimmed (s : String) : String := String.ofList (Text.trim s.toList)

theorem trimmed_append {before after word : String} (hword : Text.IsWord word.toList)
    (hblank : ∀ c ∈ (before ++ after).toList, Text.isBlank c = true) :
    trimmed (before ++ word ++ after) = word := by
  rw [String.toList_append, List.forall_mem_append] at hblank
  rw [trimmed, String.toList_append, String.toList_append,
    hword.trim_append hblank.1 hblank.2, String.ofList_toList]

theorem socket_or_ip_eq_none (s : String) : Socket.ofString? s = none ∨ Ip.ofString? s = none := by
  rcases hsocket : Socket.ofString? s with _ | socket
  · exact Or.inl rfl
  · exact Or.inr (Socket.ip_ofChars?_eq_none hsocket)

theorem server?_of_socket {s : String} {socket : Socket}
    (h : Socket.ofString? (trimmed s) = some socket) : server? s = some socket := by
  rw [trimmed] at h
  rw [server?, h, Option.some_or]

theorem server?_of_ip {s : String} {ip : Ip} (h : Ip.ofString? (trimmed s) = some ip) :
    server? s = some (.ofIp ip dnsPort) := by
  have hip : Ip.ofString? (trimmed s) ≠ none := h ▸ Option.some_ne_none ip
  have hsocket := (socket_or_ip_eq_none (trimmed s)).resolve_right hip
  rw [trimmed] at h hsocket
  rw [server?, h, hsocket, Option.none_or, Option.map_some]

theorem server?_eq_none_iff {s : String} : server? s = none ↔
    Socket.ofString? (trimmed s) = none ∧ Ip.ofString? (trimmed s) = none := by
  rw [server?, Option.or_eq_none_iff, Option.map_eq_none_iff, trimmed]

/-- A written socket without flow information is read back as a server, and a written address as that
address at port 53, whatever blanks stand around them. No text is both a socket and an address, so the
order in which they are tried makes no difference. A text is refused exactly if it is neither without
the blanks around it, and the error then shows it with them. -/
theorem required_server?_reads_texts :
    let read := required server? .invalidServer
    (∀ (s : Socket) (before after : String), s.withoutFlowInfo = s →
      (∀ c ∈ (before ++ after).toList, Text.isBlank c = true) →
        read (before ++ s.text ++ after) = .ok s) ∧
    (∀ (ip : Ip) (before after : String),
      (∀ c ∈ (before ++ after).toList, Text.isBlank c = true) →
        read (before ++ ip.text ++ after) = .ok (.ofIp ip 53)) ∧
    (∀ s, Socket.ofString? s = none ∨ Ip.ofString? s = none) ∧
    (∀ s, server? s =
      ((Ip.ofString? (trimmed s)).map (Socket.ofIp · 53)).or (Socket.ofString? (trimmed s))) ∧
    ∀ s e, read s = .error e ↔
      (Socket.ofString? (trimmed s) = none ∧ Ip.ofString? (trimmed s) = none) ∧
        e = .invalidServer s := by
  intro read
  have hread : ∀ {s server}, server? s = some server → read s = .ok server := by
    intro s server h
    simp only [read, required, h]
  refine ⟨fun s before after hflow hblank => hread (server?_of_socket ?_),
    fun ip before after hblank => hread (server?_of_ip ?_), socket_or_ip_eq_none, fun s => ?_,
    fun s e => ?_⟩
  · have hword : Text.IsWord s.text.toList := by
      rw [Socket.text, String.toList_ofList]
      exact s.isWord_chars
    rw [trimmed_append hword hblank, Socket.ofString?, Socket.text, String.toList_ofList,
      Socket.ofChars?_chars, hflow]
  · have hword : Text.IsWord ip.text.toList := by
      rw [Ip.text, String.toList_ofList]
      exact ip.isWord_chars
    rw [trimmed_append hword hblank, Ip.ofString?, Ip.text, String.toList_ofList,
      Ip.ofChars?_chars]
  · rcases hip : Ip.ofString? (trimmed s) with _ | ip
    · rcases hsocket : Socket.ofString? (trimmed s) with _ | socket
      · exact server?_eq_none_iff.mpr ⟨hsocket, hip⟩
      · exact server?_of_socket hsocket
    · exact server?_of_ip hip
  · rw [← server?_eq_none_iff]
    simp only [read, required]
    rcases server? s with _ | server <;> simp [eq_comm]

/-- A scope is kept between blanks of any kind, an address that ends like a socket gets the usual port,
and a refused text keeps its blanks. -/
theorem required_server?_reads_texts_scoped :
    required server? .invalidServer " \u3000[fe80::1%3]:5353\n" =
        .ok (.v6 ⟨#v[0xFE80, 0, 0, 0, 0, 0, 0, 1]⟩ 5353 0 3) ∧
      required server? .invalidServer "\t2001:db8::53" =
        .ok (.v6 ⟨#v[0x2001, 0xDB8, 0, 0, 0, 0, 0, 0x53]⟩ 53 0 0) ∧
      required server? .invalidServer " [fe80::1] " = .error (.invalidServer " [fe80::1] ") := by
  obtain ⟨hsocket, hip, _, _, herror⟩ := required_server?_reads_texts
  refine ⟨?_, ?_, ?_⟩
  · exact hsocket (.v6 ⟨#v[0xFE80, 0, 0, 0, 0, 0, 0, 1]⟩ 5353 0 3) " \u3000" "\n" rfl
      (List.all_eq_true.mp rfl)
  · exact hip (.v6 ⟨#v[0x2001, 0xDB8, 0, 0, 0, 0, 0, 0x53]⟩) "\t" "" (List.all_eq_true.mp rfl)
  · exact (herror " [fe80::1] " _).mpr ⟨by decide, rfl⟩

end HostDns.Config
