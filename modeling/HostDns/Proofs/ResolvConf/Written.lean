import HostDns.Proofs.Address.RoundTrip
import HostDns.Proofs.ResolvConf.Expressible
import HostDns.Proofs.Text.Numeral

/-!
Stores written as a resolver configuration.

A domain other than the default one is named by a line, and each of its servers is given by two: its
port, and its address with the scope as zone. What these lines say is known one by one, so reading
them is running through what they say; behind a group the store holds the groups before, and the
servers of the group wait for their domain to be done.
-/

namespace HostDns

/-- The scope of a socket, which is zero for IPv4. -/
def Socket.scope : Socket → UInt32
  | .v4 .. => 0
  | .v6 _ _ _ scope => scope

namespace ResolvConf

/-- A keyword and its value. -/
def keywordLine (k : Keyword) (value : List Char) : List Char := k.token.toList ++ ' ' :: value

/-- The address of a socket, with its scope as zone if it has one. -/
def addressValue (s : Socket) : List Char :=
  s.ip.chars ++ if s.scope = 0 then [] else '%' :: Text.decimal s.scope.toNat

/-- The lines that give a server: one sets its port, and one names its address. -/
def serverLines (s : Socket) : List (List Char) :=
  [keywordLine .port (Text.decimal s.port.toNat), keywordLine .nameServer (addressValue s)]

/-- The lines that give servers to a domain. Nothing stands in front of those of the default domain. -/
def groupLines (group : String × List Socket) : List (List Char) :=
  (if group.1 = defaultDomain then [] else [keywordLine .domain group.1.toList]) ++
    group.2.flatMap serverLines

/-- A store as a text. -/
def written (servers : NameServers) : String :=
  String.ofList ((servers.domains.flatMap groupLines).flatMap fun line => line ++ ['\n'])

/-! ### What one line says -/

theorem Keyword.isWord_token (k : Keyword) : Text.IsWord k.token.toList := by
  cases k <;> exact Text.isWord_of_all rfl rfl

theorem tokens_keywordLine (k : Keyword) {value : List Char} (h : Text.IsWord value) :
    Text.tokens (keywordLine k value) = [k.token.toList, value] :=
  k.isWord_token.tokens_pair h

theorem ofLine_keywordLine (k : Keyword) {value : List Char} (h : Text.IsWord value) :
    Directive.ofLine (keywordLine k value) = Directive.ofValue k value := by
  rw [Directive.ofLine, tokens_keywordLine k h, ofTokens_keyword]

theorem valueOf_keywordLine {k : Keyword} {value : List Char} (h : Text.IsWord value) :
    valueOf k (keywordLine k value) = some value :=
  valueOf_eq_some_iff.mpr ⟨[], tokens_keywordLine k h⟩

theorem not_mem_keywordLine (k : Keyword) {value : List Char} (h : Text.IsWord value) :
    '\n' ∉ keywordLine k value ∧ '\r' ∉ keywordLine k value := by
  obtain ⟨hfeed, hreturn⟩ := h.newline_not_mem
  cases k <;> simp [keywordLine, Keyword.token, hfeed, hreturn]

/-- An address with its scope is a word. -/
theorem isWord_addressValue (s : Socket) : Text.IsWord (addressValue s) := by
  have hip := s.ip.isWord_chars
  refine ⟨List.append_ne_nil_of_left_ne_nil hip.ne_nil _, fun c hc => ?_⟩
  rw [addressValue, List.mem_append] at hc
  rcases hc with hc | hc
  · exact hip.not_blank c hc
  · split at hc
    · exact absurd hc List.not_mem_nil
    · rcases List.mem_cons.mp hc with rfl | hc
      · rfl
      · exact (Text.isWord_decimal _).not_blank c hc

/-- An address with its scope is read back. -/
theorem zoned?_addressValue (s : Socket) : Listed.zoned? (addressValue s) = some (s.ip, s.scope) := by
  by_cases h : s.scope = 0
  · rw [addressValue, if_pos h, List.append_nil, Listed.zoned?, Ip.ofChars?_chars, h]
  · rcases s with _ | ⟨address, port, flowInfo, scope⟩
    · exact absurd rfl h
    have hzone : Ipv6.EndsSeries ('%' :: Text.decimal scope.toNat) :=
      Or.inl fun c hc => by cases hc; decide
    have hpercent : '%' ∉ (Ip.v6 address).chars := fun hmem =>
      absurd (Ip.isAddressChar_of_mem_chars hmem) (by decide)
    have haddress : Ipv6.ofChars? (Ip.v6 address).chars = some address := Ipv6.ofChars?_chars address
    rw [addressValue, if_neg h, Socket.ip, Socket.scope, Listed.zoned?,
      Ip.ofChars?_append_eq_none _ hzone, Text.splitFirst_append hpercent]
    simp [haddress, Text.natural?_decimal scope.toNat_lt]

/-- Each line of a group is a keyword with a word behind it. -/
theorem of_mem_groupLines {group : String × List Socket}
    (hword : group.1 ≠ defaultDomain → Text.IsWord group.1.toList) {line : List Char}
    (h : line ∈ groupLines group) : ∃ k value, Text.IsWord value ∧ line = keywordLine k value := by
  rw [groupLines, List.mem_append, List.mem_flatMap] at h
  rcases h with h | ⟨s, -, h⟩
  · split at h
    · exact absurd h List.not_mem_nil
    · next hother => exact ⟨_, _, hword hother, List.mem_singleton.mp h⟩
  · simp only [serverLines, List.mem_cons, List.not_mem_nil, or_false] at h
    rcases h with rfl | rfl
    · exact ⟨_, _, Text.isWord_decimal _, rfl⟩
    · exact ⟨_, _, isWord_addressValue s, rfl⟩

/-- What the lines of a server say. -/
def serverDirectives (s : Socket) : List Directive :=
  [.port s.port, .server ⟨s.ip, s.scope, none⟩]

/-- What the lines of a group say. -/
def groupDirectives (group : String × List Socket) : List Directive :=
  (if group.1 = defaultDomain then [] else [.domain group.1]) ++
    group.2.flatMap serverDirectives

theorem forall₂_flatMap {α β γ : Type} {R : β → γ → Prop} {f : α → List β} {g : α → List γ} :
    ∀ {l : List α}, (∀ a ∈ l, List.Forall₂ R (f a) (g a)) →
      List.Forall₂ R (l.flatMap f) (l.flatMap g)
  | [], _ => .nil
  | _ :: _, h => List.rel_append (h _ List.mem_cons_self)
      (forall₂_flatMap fun b hb => h b (List.mem_cons_of_mem _ hb))

/-- The lines of a server are read as what they say. -/
theorem ofLine_serverLines (s : Socket) :
    List.Forall₂ (fun line d => Directive.ofLine line = .ok d) (serverLines s)
      (serverDirectives s) := by
  refine .cons ?_ (.cons ?_ .nil)
  · rw [ofLine_keywordLine .port (Text.isWord_decimal _), Directive.ofValue,
      Text.natural?_decimal s.port.toNat_lt]
    simp
  · rw [ofLine_keywordLine .nameServer (isWord_addressValue s), Directive.ofValue, Listed.ofValue?,
      zoned?_addressValue]

/-- The lines of a group are read as what they say. -/
theorem ofLine_groupLines {group : String × List Socket}
    (hword : group.1 ≠ defaultDomain → Text.IsWord group.1.toList) :
    List.Forall₂ (fun line d => Directive.ofLine line = .ok d) (groupLines group)
      (groupDirectives group) := by
  refine List.rel_append ?_ (forall₂_flatMap fun s _ => ofLine_serverLines s)
  split
  · exact .nil
  · next h =>
    refine .cons ?_ .nil
    rw [ofLine_keywordLine .domain (hword h), Directive.ofValue, String.ofList_toList]

/-! ### Running through what is said -/

/-- Lines that say something are taken in by running through what they say. -/
theorem readLines_eq_foldl {lines : List (List Char)} {ds : List Directive}
    (h : List.Forall₂ (fun line d => Directive.ofLine line = .ok d) lines ds) :
    ∀ (r : Reading) (n : Nat), readLines r n lines = .ok (ds.foldl Reading.apply r) := by
  induction h with
  | nil => exact fun _ _ => rfl
  | cons hline _ ih =>
    intro r n
    rw [readLines, hline]
    exact ih _ _

/-- Behind the lines of servers, these wait as well. -/
theorem foldl_servers {servers : List Socket} (hflow : ∀ s ∈ servers, s.withoutFlowInfo = s) :
    ∀ r : Reading, ∃ port, (servers.flatMap serverDirectives).foldl Reading.apply r =
      { r with pending := r.pending ++ servers, port := port } := by
  induction servers with
  | nil => exact fun r => ⟨r.port, by rw [List.append_nil]; rfl⟩
  | cons s servers ih =>
    intro r
    obtain ⟨hs, hservers⟩ := List.forall_mem_cons.mp hflow
    have hsocket : Listed.socket s.port ⟨s.ip, s.scope, none⟩ = s := by
      rw [← hs]
      cases s <;> rfl
    obtain ⟨port, hport⟩ := ih hservers { r with pending := r.pending ++ [s], port := s.port }
    refine ⟨port, ?_⟩
    rw [List.flatMap_cons, List.foldl_append, serverDirectives, List.foldl_cons, List.foldl_cons,
      List.foldl_nil, Reading.apply, Reading.apply, hsocket, hport, List.append_assoc]
    rfl

/-- Behind the lines of a group, the groups before are done and its servers wait. -/
theorem foldl_group {group : String × List Socket}
    (hflow : ∀ s ∈ group.2, s.withoutFlowInfo = s) {r : Reading}
    (hdefault : group.1 = defaultDomain → r.domain = defaultDomain ∧ r.pending = []) :
    ∃ port, (groupDirectives group).foldl Reading.apply r =
      ⟨r.flush.servers, group.1, group.2, port⟩ := by
  have hnamed : (if group.1 = defaultDomain then [] else [Directive.domain group.1]).foldl
      Reading.apply r = ⟨r.flush.servers, group.1, [], r.port⟩ := by
    split
    · next h =>
      obtain ⟨hdomain, hpending⟩ := hdefault h
      rw [List.foldl_nil, Reading.flush_of_pending hpending, h, ← hdomain, ← hpending]
    · rw [List.foldl_cons, List.foldl_nil, Reading.apply, r.flush_pending, r.flush_port]
  obtain ⟨port, hport⟩ := foldl_servers hflow ⟨r.flush.servers, group.1, [], r.port⟩
  exact ⟨port, by rw [groupDirectives, List.foldl_append, hnamed, hport, List.nil_append]⟩

/-- A group of servers that wait is listed last once its domain is done, if its name is new. -/
theorem flush_group (s : NameServers) (port : UInt16) (group : String × List Socket)
    (hnew : group.1 ∉ s.domains.map Prod.fst) (hlisted : group.2 ≠ [] ∧ group.2.Nodup) :
    (Reading.flush ⟨s, group.1, group.2, port⟩).servers.domains = s.domains ++ [group] := by
  have hadded : group.2.foldl NameServers.addServer [] = group.2 :=
    (NameServers.foldl_addServer_eraseDups group.2 []).trans (eraseDups_of_nodup hlisted.2)
  rw [Reading.flush, if_neg hlisted.1]
  rw [NameServers.extend, NameServers.modifyDomain_of_not_mem _ hnew, hadded]

/-- Behind the lines of groups of other domains, the groups are listed behind those that were known. -/
theorem foldl_groups {groups : List (String × List Socket)}
    (hlisted : ∀ group ∈ groups, group.2 ≠ [] ∧ group.2.Nodup)
    (hflow : ∀ group ∈ groups, ∀ s ∈ group.2, s.withoutFlowInfo = s)
    (hother : ∀ group ∈ groups, group.1 ≠ defaultDomain) : ∀ r : Reading,
      (r.flush.servers.domains.map Prod.fst ++ groups.map Prod.fst).Nodup →
        ((groups.flatMap groupDirectives).foldl Reading.apply r).flush.servers.domains =
          r.flush.servers.domains ++ groups := by
  induction groups with
  | nil => exact fun r _ => (List.append_nil _).symm
  | cons group groups ih =>
    intro r hnodup
    obtain ⟨hgroup, hlisted⟩ := List.forall_mem_cons.mp hlisted
    obtain ⟨hgroupFlow, hflow⟩ := List.forall_mem_cons.mp hflow
    obtain ⟨hgroupOther, hother⟩ := List.forall_mem_cons.mp hother
    obtain ⟨port, hport⟩ := foldl_group hgroupFlow (r := r) fun h => absurd h hgroupOther
    -- the servers of the group wait, so what is known once they are done is what `ih` starts from
    have hnew : group.1 ∉ r.flush.servers.domains.map Prod.fst := fun hmem =>
      List.disjoint_of_nodup_append hnodup hmem List.mem_cons_self
    have hdone := flush_group r.flush.servers port group hnew hgroup
    rw [List.flatMap_cons, List.foldl_append, hport, ih hlisted hflow hother, hdone,
      List.append_assoc, List.singleton_append]
    rw [hdone]
    simpa using hnodup

/-- What the text of a store says builds up the store. The first group may be that of the default
domain, for which nothing is said before its servers; no other group may. -/
theorem foldl_expressible {servers : NameServers} (h : servers.Expressible) :
    ((servers.domains.flatMap groupDirectives).foldl Reading.apply
      .start).flush.servers.domains = servers.domains := by
  obtain ⟨hnodup, hlisted, hfirst, -, hflow⟩ := h
  rcases servers with ⟨_ | ⟨group, groups⟩⟩
  · rfl
  obtain ⟨hgroup, hlisted⟩ := List.forall_mem_cons.mp hlisted
  obtain ⟨hgroupFlow, hflow⟩ := List.forall_mem_cons.mp hflow
  have hother : ∀ g ∈ groups, g.1 ≠ defaultDomain := fun g hg =>
    hfirst g.1 (List.mem_map_of_mem hg)
  obtain ⟨port, hport⟩ := foldl_group hgroupFlow (r := .start) fun _ => ⟨rfl, rfl⟩
  have hdone := flush_group Reading.start.flush.servers port group List.not_mem_nil hgroup
  rw [List.flatMap_cons, List.foldl_append, hport, foldl_groups hlisted hflow hother, hdone]
  · rfl
  · rw [hdone]
    exact hnodup

/-- A store that a configuration can give is read from its text. -/
theorem nameServers_written {servers : NameServers} (h : servers.Expressible) :
    nameServers (written servers) = .ok servers := by
  have hword : ∀ group ∈ servers.domains, group.1 ≠ defaultDomain → Text.IsWord group.1.toList :=
    fun group hgroup => h.word group.1 (List.mem_map_of_mem hgroup)
  have hlines : Text.lines (written servers).toList = servers.domains.flatMap groupLines := by
    rw [written, String.toList_ofList]
    refine Text.lines_flatMap_newline fun line hline => ?_
    obtain ⟨group, hgroup, hline⟩ := List.mem_flatMap.mp hline
    obtain ⟨k, value, hvalue, rfl⟩ := of_mem_groupLines (hword group hgroup) hline
    exact not_mem_keywordLine k hvalue
  have hsaid : List.Forall₂ (fun line d => Directive.ofLine line = .ok d)
      (servers.domains.flatMap groupLines) (servers.domains.flatMap groupDirectives) :=
    forall₂_flatMap fun group hgroup => ofLine_groupLines (hword group hgroup)
  rw [nameServers, hlines, readLines_eq_foldl hsaid]
  exact congrArg Except.ok (congrArg NameServers.mk (foldl_expressible h))

/-- The stores that are read from some text are those that a configuration can give, and each of them
is read from its text. -/
theorem nameServers_image (servers : NameServers) :
    ((∃ text, nameServers text = .ok servers) ↔ servers.Expressible) ∧
      (nameServers (written servers) = .ok servers ↔ servers.Expressible) :=
  ⟨⟨fun ⟨_, h⟩ => expressible_of_nameServers h, fun h => ⟨_, nameServers_written h⟩⟩,
    expressible_of_nameServers, nameServers_written⟩

example : written ⟨[("", [.v4 ⟨10, 0, 0, 1⟩ 53]),
      ("corp", [.v6 ⟨#v[0xFE80, 0, 0, 0, 0, 0, 0, 1]⟩ 5353 0 3])]⟩ =
    "port 53\nnameserver 10.0.0.1\ndomain corp\nport 5353\nnameserver fe80::1%3\n" := by
  decide

end ResolvConf

end HostDns
