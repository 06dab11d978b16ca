import HostDns.Proofs.Address.Spelling
import HostDns.Proofs.ResolvConf.Faults
import HostDns.Proofs.ResolvConf.Written

/-!
The forms of the values that name a server.

A value is an address, an IPv6 address with a zone, or an address with a port. Only a zone brings a
percent sign, and a port brings one full stop more than addresses have, so no value has two of these
forms, whichever is tried first. Behind a percent sign everything is zone: where a full stop and a
port follow a zone, the whole is no scope number and the port is not seen.
-/

namespace HostDns.ResolvConf

/-- The forms of a value that names a server. -/
inductive Form where
  | plain
  | zoned
  | suffixed
  deriving DecidableEq, Repr

/-- Whether a value has a form: it is an address; it has a percent sign, and an IPv6 address stands
before the first one; or it is an address with a full stop and a port behind it. -/
def HasForm (value : List Char) : Form → Prop
  | .plain => ∃ ip, Ip.ofChars? value = some ip
  | .zoned => ∃ host zone address, value = host ++ '%' :: zone ∧ '%' ∉ host ∧
      Ipv6.ofChars? host = some address
  | .suffixed => ∃ host suffix ip port, value = host ++ '.' :: suffix ∧
      Ip.ofChars? host = some ip ∧ Text.natural? 65536 suffix = some port

/-! ### No value has two forms -/

theorem percent_not_mem {s : List Char} (h : LooksLikeAddress s) : '%' ∉ s :=
  fun hmem => absurd (h.addressChar '%' hmem) (by decide)

theorem not_mem_of_natural? {bound n : Nat} {s : List Char} (h : Text.natural? bound s = some n) :
    '%' ∉ s ∧ '.' ∉ s := by
  constructor <;> intro hmem <;> rcases Text.isDigit_of_natural? h hmem with hc | hc <;>
    revert hc <;> decide

/-- The one form that a value may have, told from its percent signs and full stops. -/
def formShown (value : List Char) : Form :=
  if '%' ∈ value then .zoned
  else if value.count '.' = 0 ∨ value.count '.' = 3 then .plain
  else .suffixed

/-- The form of a value shows on its percent signs and full stops. -/
theorem HasForm.eq_formShown {value : List Char} {form : Form} (h : HasForm value form) :
    form = formShown value := by
  rw [formShown]
  cases form with
  | plain =>
    obtain ⟨ip, hip⟩ := h
    have hlooks := Ip.looksLikeAddress hip
    rw [if_neg (percent_not_mem hlooks), if_pos hlooks.dots]
  | zoned =>
    obtain ⟨host, zone, _, hvalue, _⟩ := h
    rw [if_pos (hvalue ▸ List.mem_append_right _ List.mem_cons_self)]
  | suffixed =>
    obtain ⟨host, suffix, ip, port, hvalue, hip, hport⟩ := h
    have hlooks := Ip.looksLikeAddress hip
    obtain ⟨hpercent, hdot⟩ := not_mem_of_natural? hport
    have hnone : '%' ∉ value := by
      rw [hvalue, List.mem_append, List.mem_cons, not_or, not_or]
      exact ⟨percent_not_mem hlooks, by decide, hpercent⟩
    have hcount : value.count '.' = host.count '.' + 1 := by
      rw [hvalue, List.count_append, List.count_cons_self, List.count_eq_zero_of_not_mem hdot]
    have hdots := hlooks.dots
    rw [if_neg hnone, if_neg (by omega)]

/-- No value has two forms. -/
theorem HasForm.unique {value : List Char} {form form' : Form} (h : HasForm value form)
    (h' : HasForm value form') : form = form' :=
  h.eq_formShown.trans h'.eq_formShown.symm

theorem HasForm.ofChars?_eq_none {value : List Char} {form : Form} (h : HasForm value form)
    (hform : form ≠ .plain) : Ip.ofChars? value = none := by
  rw [Option.eq_none_iff_forall_ne_some]
  exact fun ip hip => hform (h.unique (show HasForm value .plain from ⟨ip, hip⟩))

/-! ### What a value of each form names -/

/-- An address is read, with a zone or without, where one of these forms is met. -/
theorem exists_zoned?_iff {value : List Char} :
    (∃ found, Listed.zoned? value = some found) ↔ HasForm value .plain ∨ HasForm value .zoned := by
  rw [Listed.zoned?]
  rcases hip : Ip.ofChars? value with _ | ip
  · simp only [Option.bind_eq_bind, Option.bind_eq_some_iff, Option.pure_def, Option.some.injEq]
    constructor
    · rintro ⟨_, ⟨host, zone⟩, hsplit, address, haddress, _⟩
      obtain ⟨hvalue, hhost⟩ := Text.splitFirst_eq_some_iff.mp hsplit
      exact Or.inr ⟨host, zone, address, hvalue, hhost, haddress⟩
    · rintro (⟨ip, hplain⟩ | ⟨host, zone, address, rfl, hhost, haddress⟩)
      · rw [hip] at hplain
        cases hplain
      · exact ⟨_, _, Text.splitFirst_append hhost zone, address, haddress, rfl⟩
  · exact ⟨fun _ => Or.inl ⟨ip, hip⟩, fun _ => ⟨_, rfl⟩⟩

theorem ofValue?_plain {value : List Char} {ip : Ip} (hip : Ip.ofChars? value = some ip) :
    Listed.ofValue? value = some ⟨ip, 0, none⟩ := by
  rw [Listed.ofValue?, Listed.zoned?, hip]

/-- Behind the first percent sign everything is zone, full stops and what follows them included. -/
theorem ofValue?_zoned {host zone : List Char} {address : Ipv6} (hhost : '%' ∉ host)
    (haddress : Ipv6.ofChars? host = some address) :
    Listed.ofValue? (host ++ '%' :: zone) =
      some ⟨.v6 address, UInt32.ofNat ((Text.natural? 4294967296 zone).getD 0), none⟩ := by
  have hform : HasForm (host ++ '%' :: zone) .zoned :=
    ⟨host, zone, address, rfl, hhost, haddress⟩
  have hip : Ip.ofChars? (host ++ '%' :: zone) = none := hform.ofChars?_eq_none (by decide)
  rw [Listed.ofValue?, Listed.zoned?, hip, Text.splitFirst_append hhost]
  simp [haddress]

/-- An address with a port is read as both. -/
theorem ofValue?_suffixed {host suffix : List Char} {ip : Ip} {port : Nat}
    (hip : Ip.ofChars? host = some ip) (hport : Text.natural? 65536 suffix = some port) :
    Listed.ofValue? (host ++ '.' :: suffix) = some ⟨ip, 0, some (UInt16.ofNat port)⟩ := by
  have hform : HasForm (host ++ '.' :: suffix) .suffixed :=
    ⟨host, suffix, ip, port, rfl, hip, hport⟩
  have hnone : Listed.zoned? (host ++ '.' :: suffix) = none := by
    rw [Option.eq_none_iff_forall_ne_some]
    intro found hfound
    rcases exists_zoned?_iff.mp ⟨found, hfound⟩ with hother | hother <;>
      cases hother.unique hform
  have hsplit : Text.splitLast '.' (host ++ '.' :: suffix) = some (host, suffix) :=
    Text.splitLast_eq_some_iff.mpr ⟨rfl, (not_mem_of_natural? hport).2⟩
  have hhost : Listed.zoned? host = some (ip, 0) := by rw [Listed.zoned?, hip]
  rw [Listed.ofValue?, hnone, hsplit]
  simp [hport, hhost]

/-- A value names a server if it has one of the forms. -/
theorem exists_ofValue?_iff {value : List Char} :
    (∃ l, Listed.ofValue? value = some l) ↔ ∃ form, HasForm value form := by
  constructor
  · rintro ⟨l, hl⟩
    rw [Listed.ofValue?] at hl
    rcases hzoned : Listed.zoned? value with _ | found
    · rw [hzoned] at hl
      simp only [Option.bind_eq_bind, Option.bind_eq_some_iff] at hl
      obtain ⟨⟨host, suffix⟩, hsplit, port, hport, found, hhost, _⟩ := hl
      obtain ⟨rfl, _⟩ := Text.splitLast_eq_some_iff.mp hsplit
      rcases exists_zoned?_iff.mp ⟨found, hhost⟩ with ⟨ip, hip⟩ | ⟨h, zone, address, rfl, hh, haddress⟩
      · exact ⟨.suffixed, host, suffix, ip, port, rfl, hip, hport⟩
      · -- the zone in front of the full stop goes on behind it
        exact ⟨.zoned, h, zone ++ '.' :: suffix, address, by simp, hh, haddress⟩
    · rcases exists_zoned?_iff.mp ⟨found, hzoned⟩ with hform | hform
      · exact ⟨_, hform⟩
      · exact ⟨_, hform⟩
  · rintro ⟨form, h⟩
    cases form with
    | plain =>
      obtain ⟨ip, hip⟩ := h
      exact ⟨_, ofValue?_plain hip⟩
    | zoned =>
      obtain ⟨host, zone, address, rfl, hhost, haddress⟩ := h
      exact ⟨_, ofValue?_zoned hhost haddress⟩
    | suffixed =>
      obtain ⟨host, suffix, ip, port, rfl, hip, hport⟩ := h
      exact ⟨_, ofValue?_suffixed hip hport⟩

theorem socket_of_ip (current : UInt16) (ip : Ip) (port : Option UInt16) :
    Listed.socket current ⟨ip, 0, port⟩ = .ofIp ip (port.getD current) := by
  cases ip <;> rfl

/-- A value names a server exactly if it has one of three forms, and it never has two of them. An
address is reached at the current port and an address with a port at that one, both without scope or
flow information; the latter is never an address itself. An IPv6 address with a zone without full
stops is reached at the current port in the scope that the zone is the number of, and in scope zero if
it is none. -/
theorem socketOf?_reads_forms (current : UInt16) (value : List Char) :
    ((∃ s, socketOf? current value = some s) ↔ ∃! form, HasForm value form) ∧
      (∀ form form', HasForm value form → HasForm value form' → form = form') ∧
      (∀ ip, Ip.ofChars? value = some ip → socketOf? current value = some (.ofIp ip current)) ∧
      (∀ host suffix ip port, value = host ++ '.' :: suffix → Ip.ofChars? host = some ip →
        Text.natural? 65536 suffix = some port →
          Ip.ofChars? value = none ∧
            socketOf? current value = some (.ofIp ip (UInt16.ofNat port))) ∧
      ∀ host zone address, value = host ++ '%' :: zone → '%' ∉ host → '.' ∉ zone →
        Ipv6.ofChars? host = some address →
          socketOf? current value =
            some (.v6 address current 0
              (UInt32.ofNat ((Text.natural? 4294967296 zone).getD 0))) := by
  have hunique : ∀ form form', HasForm value form → HasForm value form' → form = form' :=
    fun _ _ h h' => h.unique h'
  refine ⟨?_, hunique, ?_, ?_, ?_⟩
  · have hexists : (∃ s, socketOf? current value = some s) ↔ ∃ form, HasForm value form := by
      rw [← exists_ofValue?_iff, socketOf?]
      simp only [Option.map_eq_some_iff, exists_comm (α := Socket), exists_and_left, exists_eq',
        and_true]
    rw [hexists]
    constructor
    · rintro ⟨form, h⟩
      exact ⟨form, h, fun form' h' => h'.unique h⟩
    · exact ExistsUnique.exists
  · intro ip hip
    rw [socketOf?, ofValue?_plain hip, Option.map_some, socket_of_ip, Option.getD_none]
  · rintro host suffix ip port rfl hip hport
    have hform : HasForm (host ++ '.' :: suffix) .suffixed :=
      ⟨host, suffix, ip, port, rfl, hip, hport⟩
    refine ⟨hform.ofChars?_eq_none (by decide), ?_⟩
    rw [socketOf?, ofValue?_suffixed hip hport, Option.map_some, socket_of_ip, Option.getD_some]
  · rintro host zone address rfl hhost _ haddress
    rw [socketOf?, ofValue?_zoned hhost haddress]
    rfl

/-- Of five numbers the last one is the port, also where four of them close an IPv6 address, and a
port may have a plus sign. -/
example : socketOf? 53 "::ffff:1.2.3.4.+5353".toList =
    some (.v6 ⟨#v[0, 0, 0, 0, 0, 0xFFFF, 0x0102, 0x0304]⟩ 5353 0 0) := by decide

/-! ### A port behind a zone -/

/-- An address with a numeric zone and a port behind it. -/
def zoneAndPort (host : List Char) (scope : UInt32) (port : UInt16) : List Char :=
  host ++ '%' :: (Text.decimal scope.toNat ++ '.' :: Text.decimal port.toNat)

/-- An address with a numeric zone and a port behind it is a word. -/
theorem isWord_zoneAndPort {host : List Char} (h : LooksLikeAddress host) (scope : UInt32)
    (port : UInt16) : Text.IsWord (zoneAndPort host scope port) := by
  refine ⟨List.append_ne_nil_of_right_ne_nil _ (List.cons_ne_nil _ _), fun c hc => ?_⟩
  rw [zoneAndPort, List.mem_append, List.mem_cons, List.mem_append, List.mem_cons] at hc
  rcases hc with hc | rfl | hc | rfl | hc
  · exact isBlank_of_isAddressChar (h.addressChar c hc)
  · rfl
  · exact (Text.isWord_decimal _).not_blank c hc
  · rfl
  · exact (Text.isWord_decimal _).not_blank c hc

/-- A port behind a zone takes both out of sight: the server is read with scope zero and no port. -/
theorem ofValue?_zoneAndPort {host : List Char} {address : Ipv6}
    (h : Ipv6.ofChars? host = some address) (scope : UInt32) (port : UInt16) :
    Listed.ofValue? (zoneAndPort host scope port) = some ⟨.v6 address, 0, none⟩ := by
  have hdot : '.' ∈ Text.decimal scope.toNat ++ '.' :: Text.decimal port.toNat :=
    List.mem_append_right _ List.mem_cons_self
  have hnone : Text.natural? 4294967296 (Text.decimal scope.toNat ++ '.' :: Text.decimal port.toNat) =
      none := by
    rw [Option.eq_none_iff_forall_ne_some]
    exact fun n hn => (not_mem_of_natural? hn).2 hdot
  rw [zoneAndPort, ofValue?_zoned (percent_not_mem (Ipv6.looksLikeAddress h)) h, hnone]
  rfl

/-- A server that is listed by an IPv6 address with a numeric zone and a port is given with scope zero
and the port that holds on the line. So it has that zone and that port only if the zone is zero and
the port is the one that holds anyway. -/
theorem givenBy_zoneAndPort (before : List (List Char)) {host : List Char} {address : Ipv6}
    (h : Ipv6.ofChars? host = some address) (scope : UInt32) (port : UInt16) :
    let line := keywordLine .nameServer (zoneAndPort host scope port)
    givenBy before line = some (domainAfter before, .v6 address (portAfter before) 0 0) ∧
      (givenBy before line = some (domainAfter before, .v6 address port 0 scope) ↔
        scope = 0 ∧ port = portAfter before) := by
  intro line
  have hlisted : listedOf line = some ⟨.v6 address, 0, none⟩ := by
    rw [listedOf, valueOf_keywordLine (isWord_zoneAndPort (Ipv6.looksLikeAddress h) scope port),
      Option.bind_some, ofValue?_zoneAndPort h]
  have hgiven : givenBy before line =
      some (domainAfter before, .v6 address (portAfter before) 0 0) := by
    rw [givenBy, hlisted]
    rfl
  refine ⟨hgiven, ?_⟩
  rw [hgiven, Option.some.injEq, Prod.mk.injEq, Socket.v6.injEq]
  constructor
  · rintro ⟨_, _, hport, _, hscope⟩
    exact ⟨hscope.symm, hport.symm⟩
  · rintro ⟨rfl, rfl⟩
    exact ⟨rfl, rfl, rfl, rfl, rfl⟩

/-- Neither the zone nor the port reaches the store. -/
theorem givenBy_zoneAndPort_lost :
    Ipv6.ofChars? "fe80::1".toList = some ⟨#v[0xFE80, 0, 0, 0, 0, 0, 0, 1]⟩ ∧
      givenBy [] (keywordLine .nameServer (zoneAndPort "fe80::1".toList 3 5353)) =
        some ("", .v6 ⟨#v[0xFE80, 0, 0, 0, 0, 0, 0, 1]⟩ 53 0 0) := by
  have haddress : Ipv6.ofChars? "fe80::1".toList = some ⟨#v[0xFE80, 0, 0, 0, 0, 0, 0, 1]⟩ := by decide
  exact ⟨haddress, (givenBy_zoneAndPort [] haddress 3 5353).1⟩

/-- A text with one such line, which is read without the zone and the port that it gives. -/
theorem nameServers_zone_and_port :
    nameServers "nameserver fe80::1%3.5353\n" =
        .ok ⟨[("", [.v6 ⟨#v[0xFE80, 0, 0, 0, 0, 0, 0, 1]⟩ 53 0 0])]⟩ ∧
      nameServers "nameserver fe80::1%3.5353\n" ≠
        .ok ⟨[("", [.v6 ⟨#v[0xFE80, 0, 0, 0, 0, 0, 0, 1]⟩ 5353 0 3])]⟩ := by
  have hread : nameServers "nameserver fe80::1%3.5353\n" =
      .ok ⟨[("", [.v6 ⟨#v[0xFE80, 0, 0, 0, 0, 0, 0, 1]⟩ 53 0 0])]⟩ := by rfl
  refine ⟨hread, ?_⟩
  rw [hread]
  simp

end HostDns.ResolvConf
