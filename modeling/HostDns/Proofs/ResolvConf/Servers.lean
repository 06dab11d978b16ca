import HostDns.Proofs.NameServers
import HostDns.ResolvConf.Basic
import Mathlib.Data.List.Basic

/-!
Which servers a resolver configuration gives to which domains.

A line is read on its own: it may give a server, a port or a domain. The port and the domain that hold
for a server are those of the last lines before it that give one. The store that is read lists exactly
the servers given in this way, grouped by domain.

While lines are read, servers wait until their domain is done. `Reached` ties what is known part way
through a text, waiting servers included, to the lines before.
-/

namespace HostDns.ResolvConf

/-- The value that a line gives to a keyword: its second token, where the first is the keyword. -/
def valueOf (keyword : Keyword) (line : List Char) : Option (List Char) :=
  match Text.tokens line with
  | first :: value :: _ => if first = keyword.token.toList then some value else none
  | _ => none

/-- The server that a line gives. -/
def listedOf (line : List Char) : Option Listed :=
  (valueOf .nameServer line).bind Listed.ofValue?

/-- The port that a line gives. -/
def portOf (line : List Char) : Option UInt16 :=
  ((valueOf .port line).bind (Text.natural? 65536)).map UInt16.ofNat

/-- The domain that a line gives. -/
def domainOf (line : List Char) : Option String := (valueOf .domain line).map String.ofList

/-- The port that holds behind lines: that of the last line that gives one. -/
def portAfter (before : List (List Char)) : UInt16 :=
  (before.filterMap portOf).getLast?.getD dnsPort

/-- The domain that holds behind lines: that of the last line that gives one. -/
def domainAfter (before : List (List Char)) : String :=
  (before.filterMap domainOf).getLast?.getD defaultDomain

/-- The server that a line gives to a domain where it stands behind other lines. -/
def givenBy (before : List (List Char)) (line : List Char) : Option (String × Socket) :=
  (listedOf line).map fun l => (domainAfter before, l.socket (portAfter before))

/-- The servers that lines give, in order, each with its domain. -/
def givenIn (lines : List (List Char)) : List (String × Socket) :=
  lines.zipIdx.filterMap fun (line, i) => givenBy (lines.take i) line

/-- Whether a line gives what a keyword stands for. -/
def gives (line : List Char) : Keyword → Bool
  | .nameServer => (listedOf line).isSome
  | .port => (portOf line).isSome
  | .domain => (domainOf line).isSome

/-- A line that starts with a keyword has a value that the keyword takes. -/
def Accepted (line : List Char) : Prop :=
  ∀ k : Keyword, (Text.tokens line).head? = some k.token.toList → gives line k

/-! ### What one line says -/

namespace Directive

/-- The server that is listed. -/
def listed? : Directive → Option Listed
  | .server listed => some listed
  | _ => none

/-- The port that is set. -/
def port? : Directive → Option UInt16
  | .port p => some p
  | _ => none

/-- The domain that is named. -/
def domain? : Directive → Option String
  | .domain name => some name
  | _ => none

end Directive

theorem Keyword.token_toList_inj {k k' : Keyword} :
    k.token.toList = k'.token.toList ↔ k = k' := by
  cases k <;> cases k' <;> decide

theorem opensComment_token (k : Keyword) : Directive.opensComment k.token.toList = false := by
  cases k <;> rfl

theorem Keyword.ofToken?_eq_some_iff {token : List Char} {k : Keyword} :
    Keyword.ofToken? token = some k ↔ token = k.token.toList := by
  constructor
  · intro h
    simpa [eq_comm] using List.find?_some h
  · rintro rfl
    cases k <;> rfl

theorem ofTokens_keyword (k : Keyword) (rest : List (List Char)) :
    Directive.ofTokens (k.token.toList :: rest) =
      match rest with
      | [] => .error (.missingValue k)
      | value :: _ => Directive.ofValue k value := by
  rw [Directive.ofTokens, opensComment_token, Keyword.ofToken?_eq_some_iff.mpr rfl]
  rfl

/-- A line that is read either starts with no keyword and says nothing, or starts with a keyword and
says what its value does. -/
theorem ofLine_cases {line : List Char} {d : Directive} (h : Directive.ofLine line = .ok d) :
    (d = .nothing ∧ ∀ k : Keyword, (Text.tokens line).head? ≠ some k.token.toList) ∨
      ∃ k value rest, Text.tokens line = k.token.toList :: value :: rest ∧
        Directive.ofValue k value = .ok d := by
  rw [Directive.ofLine] at h
  rcases htokens : Text.tokens line with _ | ⟨first, rest⟩
  · rw [htokens] at h
    cases h
    exact Or.inl ⟨rfl, fun k hk => by cases hk⟩
  rw [htokens, Directive.ofTokens] at h
  split at h
  · next hcomment =>
    cases h
    refine Or.inl ⟨rfl, fun k hk => ?_⟩
    rw [List.head?_cons, Option.some.injEq] at hk
    rw [hk, opensComment_token] at hcomment
    cases hcomment
  rcases hk : Keyword.ofToken? first with _ | k
  · rw [hk] at h
    cases h
    refine Or.inl ⟨rfl, fun k hfirst => ?_⟩
    rw [List.head?_cons, Option.some.injEq, ← Keyword.ofToken?_eq_some_iff, hk] at hfirst
    cases hfirst
  · rw [hk] at h
    rcases rest with _ | ⟨value, rest⟩
    · cases h
    · exact Or.inr ⟨k, value, rest, by rw [Keyword.ofToken?_eq_some_iff.mp hk], h⟩

/-- A line is accepted, and gives what it is read to say. -/
structure Says (line : List Char) (d : Directive) : Prop where
  accepted : Accepted line
  listed : listedOf line = d.listed?
  port : portOf line = d.port?
  domain : domainOf line = d.domain?

theorem valueOf_of_tokens {line : List Char} {k : Keyword} {value : List Char}
    {rest : List (List Char)} (h : Text.tokens line = k.token.toList :: value :: rest)
    (k' : Keyword) : valueOf k' line = if k = k' then some value else none := by
  simp only [valueOf, h, Keyword.token_toList_inj]

/-- The value of a keyword stands behind it. -/
theorem valueOf_eq_some_iff {k : Keyword} {line value : List Char} :
    valueOf k line = some value ↔ ∃ rest, Text.tokens line = k.token.toList :: value :: rest := by
  constructor
  · intro h
    rw [valueOf] at h
    split at h
    · next first v rest htokens =>
      split at h
      · next hfirst =>
        cases h
        exact ⟨rest, hfirst ▸ htokens⟩
      · cases h
    · cases h
  · rintro ⟨rest, htokens⟩
    rw [valueOf_of_tokens htokens, if_pos rfl]

/-- A line that starts with no keyword has no value for any. -/
theorem valueOf_eq_none {line : List Char}
    (h : ∀ k : Keyword, (Text.tokens line).head? ≠ some k.token.toList) (k : Keyword) :
    valueOf k line = none := by
  rw [valueOf]
  split
  · next first value rest htokens =>
    have hk := h k
    rw [htokens, List.head?_cons] at hk
    exact if_neg fun heq => hk (congrArg some heq)
  · rfl

theorem says_nothing {line : List Char}
    (h : ∀ k : Keyword, (Text.tokens line).head? ≠ some k.token.toList) : Says line .nothing := by
  have hval := valueOf_eq_none h
  refine ⟨fun k hk => absurd hk (h k), ?_, ?_, ?_⟩
  · simp [listedOf, hval, Directive.listed?]
  · simp [portOf, hval, Directive.port?]
  · simp [domainOf, hval, Directive.domain?]

/-- A line is accepted if it gives what its keyword stands for. -/
theorem accepted_of_gives {line : List Char} {k : Keyword} {rest : List (List Char)}
    (htokens : Text.tokens line = k.token.toList :: rest) (hgives : gives line k) :
    Accepted line := by
  intro k' hk'
  rw [htokens, List.head?_cons, Option.some.injEq] at hk'
  exact Keyword.token_toList_inj.mp hk' ▸ hgives

/-- A line that starts with a keyword says what its value does. -/
theorem says_of_ofValue {line : List Char} {k : Keyword} {value : List Char}
    {rest : List (List Char)} {d : Directive}
    (htokens : Text.tokens line = k.token.toList :: value :: rest)
    (h : Directive.ofValue k value = .ok d) : Says line d := by
  have hval := valueOf_of_tokens htokens
  have haccepted := fun hgives => accepted_of_gives htokens hgives
  cases k with
  | nameServer =>
    rw [Directive.ofValue] at h
    rcases hl : Listed.ofValue? value with _ | l <;> rw [hl] at h <;> cases h
    have hlisted : listedOf line = some l := by simp [listedOf, hval, hl]
    refine ⟨haccepted (by simp [gives, hlisted]), hlisted, ?_, ?_⟩
    · simp [portOf, hval, Directive.port?]
    · simp [domainOf, hval, Directive.domain?]
  | port =>
    rw [Directive.ofValue] at h
    rcases hn : Text.natural? 65536 value with _ | n <;> rw [hn] at h <;> cases h
    have hport : portOf line = some (UInt16.ofNat n) := by simp [portOf, hval, hn]
    refine ⟨haccepted (by simp [gives, hport]), ?_, hport, ?_⟩
    · simp [listedOf, hval, Directive.listed?]
    · simp [domainOf, hval, Directive.domain?]
  | domain =>
    cases h
    have hdomain : domainOf line = some (String.ofList value) := by simp [domainOf, hval]
    refine ⟨haccepted (by simp [gives, hdomain]), ?_, ?_, hdomain⟩
    · simp [listedOf, hval, Directive.listed?]
    · simp [portOf, hval, Directive.port?]

/-- Lines that are read say what they give. -/
theorem says_of_ofLine {line : List Char} {d : Directive} (h : Directive.ofLine line = .ok d) :
    Says line d := by
  rcases ofLine_cases h with ⟨rfl, hnone⟩ | ⟨k, value, rest, htokens, hvalue⟩
  · exact says_nothing hnone
  · exact says_of_ofValue htokens hvalue

/-! ### Reading line after line -/

/-- One line more gives at most one server more. -/
theorem givenIn_concat (lines : List (List Char)) (line : List Char) :
    givenIn (lines ++ [line]) = givenIn lines ++ (givenBy lines line).toList := by
  have hbefore : ∀ p ∈ lines.zipIdx,
      givenBy ((lines ++ [line]).take p.2) p.1 = givenBy (lines.take p.2) p.1 := by
    intro p hp
    have hlt : p.2 < lines.length := List.snd_lt_of_mem_zipIdx hp
    rw [List.take_append_of_le_length (Nat.le_of_lt hlt)]
  rw [givenIn, List.zipIdx_append, List.filterMap_append, List.filterMap_congr hbefore]
  cases h : givenBy lines line <;> simp [givenIn, h]

theorem portAfter_concat (lines : List (List Char)) (line : List Char) :
    portAfter (lines ++ [line]) = (portOf line).getD (portAfter lines) := by
  cases h : portOf line <;> simp [portAfter, h]

theorem domainAfter_concat (lines : List (List Char)) (line : List Char) :
    domainAfter (lines ++ [line]) = (domainOf line).getD (domainAfter lines) := by
  cases h : domainOf line <;> simp [domainAfter, h]

theorem Reading.flush_pending (r : Reading) : r.flush.pending = [] := by
  rw [Reading.flush]
  split
  · assumption
  · rfl

theorem Reading.flush_port (r : Reading) : r.flush.port = r.port := by
  rw [Reading.flush]
  split <;> rfl

theorem Reading.flush_servers_setPort (r : Reading) (p : UInt16) :
    { r with port := p }.flush.servers = r.flush.servers := by
  rw [Reading.flush, Reading.flush]
  split <;> rfl

theorem Reading.flush_of_pending {r : Reading} (h : r.pending = []) : r.flush = r := if_pos h

/-- One server more that waits is one server more in the domain once it is done. -/
theorem Reading.flush_pending_concat (r : Reading) (server : Socket) :
    { r with pending := r.pending ++ [server] }.flush.servers =
      r.flush.servers.extend r.domain [server] := by
  by_cases h : r.pending = []
  · simp [Reading.flush, h]
  · simp [Reading.flush, h, NameServers.extend_append]

/-- What is known behind lines, servers that wait for their domain to be done included. -/
structure Reached (before : List (List Char)) (r : Reading) : Prop where
  port : r.port = portAfter before
  domain : r.domain = domainAfter before
  servers : r.flush.servers.domains = NameServers.grouped (givenIn before)

theorem reached_start : Reached [] Reading.start := ⟨rfl, rfl, rfl⟩

/-- A line that is read takes what is known behind the lines before to what is known behind it. -/
theorem Reached.step {before : List (List Char)} {r : Reading} {line : List Char} {d : Directive}
    (hr : Reached before r) (hsaid : Says line d) : Reached (before ++ [line]) (r.apply d) := by
  have hport := portAfter_concat before line
  have hdomain := domainAfter_concat before line
  have hgiven := givenIn_concat before line
  rw [hsaid.port, ← hr.port] at hport
  rw [hsaid.domain, ← hr.domain] at hdomain
  rw [givenBy, hsaid.listed, ← hr.port, ← hr.domain] at hgiven
  have hsame : d.listed? = none → givenIn (before ++ [line]) = givenIn before := by
    intro hnone
    rw [hgiven, hnone, Option.map_none, Option.toList_none, List.append_nil]
  cases d with
  | nothing =>
    refine ⟨hport.symm, hdomain.symm, ?_⟩
    rw [hsame rfl]
    exact hr.servers
  | server l =>
    refine ⟨hport.symm, hdomain.symm, ?_⟩
    rw [Reading.apply, Reading.flush_pending_concat, NameServers.extend, hr.servers, hgiven]
    exact (NameServers.grouped_concat _ _ _).symm
  | port p =>
    refine ⟨hport.symm, hdomain.symm, ?_⟩
    rw [hsame rfl, Reading.apply, Reading.flush_servers_setPort]
    exact hr.servers
  | domain name =>
    have hdone : { r.flush with domain := name }.flush = { r.flush with domain := name } :=
      Reading.flush_of_pending r.flush_pending
    refine ⟨r.flush_port.trans hport.symm, hdomain.symm, ?_⟩
    rw [hsame rfl, Reading.apply, hdone]
    exact hr.servers

/-- Lines that are read take what is known behind the lines before to what is known behind them, and
all of them are accepted. -/
theorem Reached.readLines {lines : List (List Char)} : ∀ {before : List (List Char)} {r r' : Reading}
    {n : Nat}, Reached before r → ResolvConf.readLines r n lines = .ok r' →
      (∀ line ∈ lines, Accepted line) ∧ Reached (before ++ lines) r' := by
  induction lines with
  | nil =>
    intro before r r' n hr h
    cases h
    exact ⟨fun _ hline => absurd hline List.not_mem_nil, by rwa [List.append_nil]⟩
  | cons line lines ih =>
    intro before r r' n hr h
    rw [ResolvConf.readLines] at h
    rcases hline : Directive.ofLine line with fault | d
    · rw [hline] at h; cases h
    · rw [hline] at h
      have hsaid := says_of_ofLine hline
      obtain ⟨haccepted, hreached⟩ := ih (hr.step hsaid) h
      rw [List.append_assoc, List.singleton_append] at hreached
      exact ⟨List.forall_mem_cons.mpr ⟨hsaid.accepted, haccepted⟩, hreached⟩

/-- A text that is read lists the servers that its lines give: every line that starts with a keyword is
accepted, and the store groups the servers of all lines by the domain that holds where they stand. -/
theorem nameServers_eq_grouped {text : String} {servers : NameServers}
    (h : nameServers text = .ok servers) :
    (∀ line ∈ Text.lines text.toList, Accepted line) ∧
      servers.domains = NameServers.grouped (givenIn (Text.lines text.toList)) := by
  rw [nameServers] at h
  rcases hread : readLines .start 1 (Text.lines text.toList) with fault | r
  · rw [hread] at h; cases h
  · rw [hread] at h
    cases h
    obtain ⟨haccepted, hreached⟩ := reached_start.readLines hread
    rw [List.nil_append] at hreached
    exact ⟨haccepted, hreached.servers⟩

/-- The domain `a` is left for `b`, which gets no server, and entered again: its servers stay together,
the one that is given twice is listed once, and the port holds on. -/
theorem nameServers_eq_grouped_reentered :
    let text := "nameserver 1.1.1.1\nport 9\ndomain a\nnameserver ::1 x\ndomain b\ndomain a\nnameserver ::1"
    let domains := [("", [Socket.v4 ⟨1, 1, 1, 1⟩ 53]),
      ("a", [.v6 ⟨#v[0, 0, 0, 0, 0, 0, 0, 1]⟩ 9 0 0])]
    nameServers text = .ok ⟨domains⟩ ∧ (∀ line ∈ Text.lines text.toList, Accepted line) ∧
      domains = NameServers.grouped (givenIn (Text.lines text.toList)) := by
  intro text domains
  have hread : nameServers text = .ok ⟨domains⟩ := by
    simp only [text, domains]
    rfl
  exact ⟨hread, nameServers_eq_grouped hread⟩

end HostDns.ResolvConf
