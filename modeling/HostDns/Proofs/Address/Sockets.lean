import HostDns.Proofs.Address.Spelling

/-!
Written sockets are read back, and no socket is an address.

A port and a scope are numbers behind a character of their own, and the address in front of them ends
at that character. The flow information is not written, so it is read as zero.
-/

namespace HostDns

theorem readNumber_decimal {bound n : Nat} (h : n < bound) {rest : List Char}
    (hrest : Text.Stops Char.isDigit rest) :
    readNumber bound (Text.decimal n ++ rest) = some (n, rest) := by
  have hdigits : ∀ c ∈ Text.decimal n, c.isDigit = true := fun _ => Text.isDigit_of_mem_decimal
  rw [readNumber, Text.takeWhile_run hdigits hrest, Text.dropWhile_run hdigits hrest,
    Text.digits?_decimal]
  simp [guard, h]

namespace Socket

theorem readPort_decimal (port : UInt16) {rest : List Char}
    (hrest : Text.Stops Char.isDigit rest) :
    readPort (':' :: (Text.decimal port.toNat ++ rest)) = some (port, rest) := by
  rw [readPort]
  simp [readNumber_decimal port.toNat_lt hrest]

theorem readScope_decimal (scope : UInt32) {rest : List Char}
    (hrest : Text.Stops Char.isDigit rest) :
    readScope ('%' :: (Text.decimal scope.toNat ++ rest)) = some (scope, rest) := by
  rw [readScope]
  simp [readNumber_decimal scope.toNat_lt hrest]

/-- A scope is read back in front of the closing bracket, also if it is zero and not written. -/
theorem readScope_closing (scope : UInt32) (rest : List Char) :
    let s := (if scope = 0 then [] else '%' :: Text.decimal scope.toNat) ++ ']' :: rest
    (readScope s).getD (0, s) = (scope, ']' :: rest) := by
  have hclosing : Text.Stops Char.isDigit (']' :: rest) := fun c hc => by cases hc; rfl
  by_cases h : scope = 0
  · subst h
    rfl
  · simp only [if_neg h, List.cons_append, readScope_decimal scope hclosing, Option.getD_some]

/-- What stands behind the address in brackets ends the address. -/
theorem endsSeries_scope (scope : UInt32) (rest : List Char) : Ipv6.EndsSeries
    ((if scope = 0 then [] else '%' :: Text.decimal scope.toNat) ++ ']' :: rest) := by
  refine Or.inl fun c hc => ?_
  by_cases h : scope = 0
  · simp only [if_pos h, List.nil_append] at hc
    cases hc
    decide
  · simp only [if_neg h, List.cons_append] at hc
    cases hc
    decide

theorem readIpv4_chars (address : Ipv4) (port : UInt16) {rest : List Char}
    (hrest : Text.Stops Char.isDigit rest) :
    readIpv4 (chars (.v4 address port) ++ rest) = some (.v4 address port, rest) := by
  have hcolon : Text.Stops Char.isDigit (':' :: (Text.decimal port.toNat ++ rest)) :=
    fun c hc => by cases hc; rfl
  rw [readIpv4, chars, List.append_assoc, List.cons_append, Ipv4.read_chars address hcolon]
  simp [readPort_decimal port hrest]

/-- A written IPv6 socket is read up to where its port stops, and its flow information as zero. -/
theorem readIpv6_chars (address : Ipv6) (port : UInt16) (flowInfo scope : UInt32) {rest : List Char}
    (hrest : Text.Stops Char.isDigit rest) :
    readIpv6 (chars (.v6 address port flowInfo scope) ++ rest) =
      some (.v6 address port 0 scope, rest) := by
  have hends := endsSeries_scope scope (':' :: (Text.decimal port.toNat ++ rest))
  have hscope := readScope_closing scope (':' :: (Text.decimal port.toNat ++ rest))
  have haddress := Ipv6.read_chars address hends
  have htext : chars (.v6 address port flowInfo scope) ++ rest =
      '[' :: (address.chars ++ ((if scope = 0 then [] else '%' :: Text.decimal scope.toNat) ++
        ']' :: ':' :: (Text.decimal port.toNat ++ rest))) := by simp [chars]
  rw [readIpv6, htext]
  simp only [expect_cons, haddress, hscope, readPort_decimal port hrest, Option.bind_eq_bind,
    Option.bind_some, Option.pure_def]

/-- A written socket is read up to where its port stops. -/
theorem read_chars (s : Socket) {rest : List Char} (hrest : Text.Stops Char.isDigit rest) :
    read (s.chars ++ rest) = some (s.withoutFlowInfo, rest) := by
  cases s with
  | v4 address port =>
    rw [read, readIpv4_chars address port hrest]
    rfl
  | v6 address port flowInfo scope =>
    have hbracket : readIpv4 (chars (.v6 address port flowInfo scope) ++ rest) = none := by
      rw [readIpv4, chars, List.append_assoc, List.append_assoc, List.cons_append,
        Ipv4.read_eq_none (by simp [Char.isDigit])]
      rfl
    rw [read, hbracket, readIpv6_chars address port flowInfo scope hrest]
    rfl

/-- A written socket is read back as a whole, without its flow information. -/
theorem ofChars?_chars (s : Socket) : ofChars? s.chars = some s.withoutFlowInfo := by
  have hend : Text.Stops Char.isDigit [] := fun c hc => by cases hc
  have hread := read_chars s hend
  rw [List.append_nil] at hread
  rw [ofChars?, PartReader.whole?, hread]

/-- A written socket is a word. -/
theorem isWord_chars (s : Socket) : Text.IsWord s.chars := by
  have hcolon : Text.IsWord [':'] := Text.isWord_of_all rfl rfl
  have hport : ∀ port : UInt16, Text.IsWord (':' :: Text.decimal port.toNat) := fun port =>
    hcolon.append (Text.isWord_decimal port.toNat)
  have hopen : Text.IsWord ['['] := Text.isWord_of_all rfl rfl
  have hclose : Text.IsWord [']'] := Text.isWord_of_all rfl rfl
  have hpercent : Text.IsWord ['%'] := Text.isWord_of_all rfl rfl
  cases s with
  | v4 address port => exact (Ip.isWord_chars (.v4 address)).append (hport port)
  | v6 address port flowInfo scope =>
    have haddress := hopen.append (Ip.isWord_chars (.v6 address))
    have hend := hclose.append (hport port)
    rw [chars]
    split
    · rw [List.append_nil]
      exact haddress.append hend
    · exact (haddress.append (hpercent.append (Text.isWord_decimal scope.toNat))).append hend

/-- What is read as a socket is no address: a port stands behind the dotted address, and no IPv6
address goes on there, or a bracket comes first. -/
theorem ip_ofChars?_eq_none {s : List Char} {socket : Socket} (h : ofChars? s = some socket) :
    Ip.ofChars? s = none := by
  rw [ofChars?, PartReader.whole?_eq_some_iff, read, Option.or_eq_some_iff] at h
  rcases h with h | ⟨-, h⟩
  · simp only [readIpv4, Option.bind_eq_bind, Option.bind_eq_some_iff, Prod.exists] at h
    obtain ⟨address, rest, haddress, port, rest', hport, -⟩ := h
    rcases rest with _ | ⟨c, rest⟩
    · cases hport
    · rw [Ip.ofChars?, PartReader.whole?, Ip.read, haddress]
  · simp only [readIpv6, Option.bind_eq_bind, Option.bind_eq_some_iff] at h
    obtain ⟨body, hbracket, -⟩ := h
    rw [Option.eq_none_iff_forall_ne_some]
    intro ip hip
    rcases s with _ | ⟨c, s⟩
    · cases hbracket
    · rw [expect, Option.ite_none_right_eq_some] at hbracket
      obtain ⟨rfl, -⟩ := hbracket
      exact absurd ((Ip.looksLikeAddress hip).addressChar _ List.mem_cons_self) (by decide)

theorem chars_withoutFlowInfo (s : Socket) : s.withoutFlowInfo.chars = s.chars := by
  cases s <;> rfl

theorem text_inj {s t : Socket} : s.text = t.text ↔ s.withoutFlowInfo = t.withoutFlowInfo := by
  rw [text, text, String.ofList_inj]
  constructor
  · intro h
    rw [← Option.some.injEq, ← ofChars?_chars, h, ofChars?_chars]
  · intro h
    rw [← chars_withoutFlowInfo, h, chars_withoutFlowInfo]

end Socket

end HostDns
