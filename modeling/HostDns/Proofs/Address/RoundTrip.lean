import HostDns.Address.Printer
import HostDns.Address.Reader
import HostDns.Proofs.Text.Blank
import HostDns.Proofs.Text.Numeral

/-!
Written addresses are read back.

An address may stand in front of any text that cannot go on with it. Both forms of an IPv6 address are
series of groups, so one lemma on a series, by induction on its groups, carries them; where `::` stands,
the zeros that are missing are those that were left out. An address that reads as a dotted one does not
read as an IPv6 address, so it does not matter that the dotted form is tried first.
-/

namespace HostDns

@[simp]
theorem expect_cons (c : Char) (s : List Char) : expect c (c :: s) = some s := if_pos rfl

theorem expect_eq_none {c : Char} {s : List Char} (h : s.head? ≠ some c) : expect c s = none := by
  rcases s with _ | ⟨d, s⟩
  · rfl
  · exact if_neg fun hd => h (congrArg some hd)

/-! ### Dotted addresses -/

namespace Ipv4

/-- A written byte is read back. -/
theorem readByte_decimal (b : UInt8) {rest : List Char} (hrest : Text.Stops Char.isDigit rest) :
    readByte (Text.decimal b.toNat ++ rest) = some (b, rest) := by
  have hdigits : ∀ c ∈ Text.decimal b.toNat, c.isDigit = true :=
    fun _ => Text.isDigit_of_mem_decimal
  have hlt : b.toNat < 256 := b.toNat_lt
  have hlength : (Text.decimal b.toNat).length ≤ 3 :=
    (Nat.length_toDigits_le_iff (by decide) (by decide)).mpr (by omega)
  have hzero : (Text.decimal b.toNat).length = 1 ∨ (Text.decimal b.toNat).head? ≠ some '0' := by
    by_cases h : b.toNat = 0
    · rw [h]; exact Or.inl rfl
    · exact Or.inr (mt Text.head?_decimal_eq_zero_iff.mp h)
  rw [readByte, Text.takeWhile_run hdigits hrest, Text.dropWhile_run hdigits hrest,
    Text.digits?_decimal]
  simp [guard, hlength, hlt, hzero]

theorem read_chars (address : Ipv4) {rest : List Char} (hrest : Text.Stops Char.isDigit rest) :
    read (address.chars ++ rest) = some (address, rest) := by
  have hdot : ∀ s, Text.Stops Char.isDigit ('.' :: s) := fun s c hc => by cases hc; rfl
  have hread : ∀ (b : UInt8) s, readByte (Text.decimal b.toNat ++ '.' :: s) = some (b, '.' :: s) :=
    fun b s => readByte_decimal b (hdot s)
  simp [read, chars, hread, readByte_decimal address.d hrest, expect]

theorem rest_of_readByte {s rest : List Char} {b : UInt8} (h : readByte s = some (b, rest)) :
    rest = s.dropWhile Char.isDigit := by
  simp only [readByte, Option.bind_eq_bind, Option.bind_eq_some_iff, Option.pure_def,
    Option.some.injEq, Prod.mk.injEq] at h
  obtain ⟨n, -, _, -, _, -, -, hrest⟩ := h
  exact hrest.symm

theorem read_eq_none {s : List Char} (h : (s.dropWhile Char.isDigit).head? ≠ some '.') :
    read s = none := by
  rw [read]
  rcases hbyte : readByte s with _ | ⟨b, rest⟩
  · rfl
  · rw [← rest_of_readByte hbyte] at h
    simp [expect_eq_none h]

/-- A run without full stops is no dotted address, unless digits or a full stop follow. -/
theorem read_append_eq_none {run rest : List Char} (hrun : '.' ∉ run)
    (hrest : Text.Stops Char.isDigit rest) (hdot : rest.head? ≠ some '.') :
    read (run ++ rest) = none := by
  apply read_eq_none
  induction run with
  | nil =>
    rw [Text.dropWhile_run (List.forall_mem_nil _) hrest]
    exact hdot
  | cons c run ih =>
    rw [List.mem_cons, not_or] at hrun
    by_cases hc : c.isDigit = true
    · rw [List.cons_append, List.dropWhile_cons_of_pos hc]
      exact ih hrun.2
    · rw [List.cons_append, List.dropWhile_cons_of_neg hc, List.head?_cons]
      exact fun h => hrun.1 (Option.some.inj h).symm

end Ipv4

/-! ### Series of groups -/

namespace Ipv6

/-- Whether a series of groups that is not dotted ends before a text. It goes on with a digit or a full
stop, and with a colon unless that is one of two. -/
def EndsSeries (s : List Char) : Prop :=
  (∀ c ∈ s.head?, isHexDigit c = false ∧ c ≠ '.' ∧ c ≠ ':') ∨ ∃ rest, s = ':' :: ':' :: rest

/-- Whether a group ends before a text, and the text does not make it the first byte of a dotted
address. -/
def EndsGroup (s : List Char) : Prop := ∀ c ∈ s.head?, isHexDigit c = false ∧ c ≠ '.'

theorem endsGroup_colon (s : List Char) : EndsGroup (':' :: s) := by
  intro c hc
  cases hc
  decide

theorem EndsSeries.endsGroup {s : List Char} (h : EndsSeries s) : EndsGroup s := by
  rcases h with h | ⟨rest, rfl⟩
  · exact fun c hc => ⟨(h c hc).1, (h c hc).2.1⟩
  · exact endsGroup_colon _

theorem isHexDigit_of_isDigit {c : Char} (h : c.isDigit = true) : isHexDigit c = true := by
  rw [Char.isDigit, Bool.and_eq_true, decide_eq_true_eq, decide_eq_true_eq] at h
  have hrange : '0' ≤ c ∧ c ≤ '9' := h
  rw [isHexDigit, Text.hexDigit?, if_pos hrange]
  rfl

theorem EndsGroup.stops {s : List Char} (h : EndsGroup s) : Text.Stops Char.isDigit s := by
  intro c hc
  rw [← Bool.not_eq_true]
  exact fun hdigit => Bool.false_ne_true ((h c hc).1.symm.trans (isHexDigit_of_isDigit hdigit))

theorem ipv4_read_eq_none {run rest : List Char} (hrun : ∀ c ∈ run, isHexDigit c = true)
    (hrest : EndsGroup rest) : Ipv4.read (run ++ rest) = none := by
  have hdot : '.' ∉ run := fun h => absurd (hrun '.' h) (by decide)
  exact Ipv4.read_append_eq_none hdot hrest.stops fun h => (hrest '.' h).2 rfl

theorem isHexDigit_of_mem_hexadecimal {n : Nat} : ∀ c ∈ Text.hexadecimal n, isHexDigit c = true :=
  fun _ => Text.hexDigit?_isSome_of_mem_hexadecimal

/-- A written group is read back. -/
theorem readGroup_hexadecimal (g : UInt16) {rest : List Char} (hrest : EndsGroup rest) :
    readGroup (Text.hexadecimal g.toNat ++ rest) = some (g, rest) := by
  have hstops : Text.Stops isHexDigit rest := fun c hc => (hrest c hc).1
  have hpos : 0 < (Text.hexadecimal g.toNat).length := Nat.length_toDigits_pos
  have hlength : (Text.hexadecimal g.toNat).length ≤ 4 :=
    (Nat.length_toDigits_le_iff (by decide) (by decide)).mpr g.toNat_lt
  rw [readGroup, Text.takeWhile_run isHexDigit_of_mem_hexadecimal hstops,
    Text.dropWhile_run isHexDigit_of_mem_hexadecimal hstops, Text.hexValue_hexadecimal]
  simp [guard, hpos, hlength]

theorem readGroup_eq_none {s : List Char} (h : EndsGroup s) : readGroup s = none := by
  have hstops : Text.Stops isHexDigit s := fun c hc => (h c hc).1
  have hnone : s.takeWhile isHexDigit = [] := Text.takeWhile_run (List.forall_mem_nil _) hstops
  rw [readGroup, hnone]
  rfl

/-- No further group is read where a series ends. -/
theorem readSeries_of_endsSeries {s : List Char} (h : EndsSeries s) (first : Bool) :
    ∀ room, readSeries room first s = ⟨[], false, s⟩
  | 0 => rfl
  | room + 1 => by
    rw [readSeries]
    rcases hbody : (if first then some s else expect ':' s) with _ | body
    · rfl
    · have hends : EndsGroup body := by
        rcases first
        · rcases h with h | ⟨rest, rfl⟩
          · rw [if_neg Bool.false_ne_true, expect_eq_none fun hc => (h ':' hc).2.2 rfl] at hbody
            cases hbody
          · cases hbody
            exact endsGroup_colon _
        · cases hbody
          exact h.endsGroup
      have hbyte : Ipv4.read body = none := ipv4_read_eq_none (List.forall_mem_nil _) hends
      simp only [hbyte, ite_self, readGroup_eq_none hends]

/-- A written group is the first one of a series, and the series goes on behind it. -/
theorem readSeries_group (g : UInt16) {s rest : List Char} {first : Bool}
    (hbody : (if first then some s else expect ':' s) = some (Text.hexadecimal g.toNat ++ rest))
    (hrest : EndsGroup rest) (room : Nat) : readSeries (room + 1) first s =
      ⟨g :: (readSeries room false rest).groups, (readSeries room false rest).dotted,
        (readSeries room false rest).rest⟩ := by
  rw [readSeries, hbody]
  simp only [ipv4_read_eq_none isHexDigit_of_mem_hexadecimal hrest, ite_self,
    readGroup_hexadecimal g hrest]

/-- Written groups are read back as a series. -/
theorem readSeries_joinGroups {rest : List Char} (hrest : EndsSeries rest) (gs : List UInt16) :
    ∀ {first : Bool} {s : List Char} {room : Nat}, gs ≠ [] → gs.length ≤ room →
      (if first then some s else expect ':' s) = some (joinGroups gs ++ rest) →
        readSeries room first s = ⟨gs, false, rest⟩ := by
  induction gs with
  | nil => exact fun h => absurd rfl h
  | cons g gs ih =>
    intro first s room _ hroom hbody
    rcases room with _ | room
    · exact absurd hroom (Nat.not_succ_le_zero _)
    rcases gs with _ | ⟨g', gs⟩
    · rw [readSeries_group g hbody hrest.endsGroup, readSeries_of_endsSeries hrest]
    · have hjoin : joinGroups (g :: g' :: gs) =
          Text.hexadecimal g.toNat ++ ':' :: joinGroups (g' :: gs) := rfl
      rw [hjoin, List.append_assoc] at hbody
      rw [readSeries_group g hbody (endsGroup_colon _),
        ih (List.cons_ne_nil _ _) (by simpa using hroom) rfl]

/-- Written groups that open a series are read back, also if there are none. -/
theorem readSeries_first {rest : List Char} (hrest : EndsSeries rest) {gs : List UInt16} {room : Nat}
    (hroom : gs.length ≤ room) : readSeries room true (joinGroups gs ++ rest) = ⟨gs, false, rest⟩ := by
  rcases eq_or_ne gs [] with rfl | hgs
  · exact readSeries_of_endsSeries hrest true room
  · exact readSeries_joinGroups hrest gs hgs hroom rfl

theorem readSeries_dotted (inner : Ipv4) {rest : List Char}
    (hrest : Text.Stops Char.isDigit rest) (room : Nat) :
    readSeries (room + 2) false (':' :: (inner.chars ++ rest)) =
      ⟨groupsOfIpv4 inner, true, rest⟩ := by
  rw [readSeries]
  simp [Ipv4.read_chars inner hrest]

/-! ### Both forms of an address -/

theorem ofGroups?_toList (address : Ipv6) : ofGroups? address.groups.toList = some address := by
  rcases address with ⟨⟨groups, hsize⟩⟩
  simp [ofGroups?, hsize]

/-- The address of eight groups in a series. -/
theorem read_of_full {s rest : List Char} {address : Ipv6} {dotted : Bool}
    (h : readSeries 8 true s = ⟨address.groups.toList, dotted, rest⟩) :
    read s = some (address, rest) := by
  rw [read]
  simp [h, ofGroups?_toList]

/-- The address of two series with zeros between them. -/
theorem read_of_split {s body rest : List Char} {before after : List UInt16} {address : Ipv6}
    {dotted : Bool} (hhead : readSeries 8 true s = ⟨before, false, ':' :: ':' :: body⟩)
    (hroom : before.length < 8)
    (htail : readSeries (7 - before.length) true body = ⟨after, dotted, rest⟩)
    (hgroups : address.groups.toList =
      before ++ List.replicate (8 - before.length - after.length) 0 ++ after) :
    read s = some (address, rest) := by
  have haddress := ofGroups?_toList address
  rw [hgroups] at haddress
  rw [read]
  simp only [hhead, if_neg (Nat.ne_of_lt hroom), Bool.false_eq_true, if_false, expect_cons,
    Option.bind_eq_bind, Option.bind_some, htail, haddress, Option.pure_def]

/-- The zeros at the front of groups. -/
theorem eq_replicate_leadingZeros : ∀ gs : List UInt16,
    gs = List.replicate (leadingZeros gs) 0 ++ gs.drop (leadingZeros gs)
  | [] => rfl
  | g :: gs => by
    rw [leadingZeros]
    split
    · next h =>
      rw [List.replicate_succ, List.drop_succ_cons, List.cons_append,
        ← eq_replicate_leadingZeros gs, h]
    · rfl

/-- The longest run of zeros splits the groups around it. -/
theorem eq_replicate_longestZeros : ∀ gs : List UInt16,
    gs = gs.take (longestZeros gs).1 ++ List.replicate (longestZeros gs).2 0 ++
      gs.drop ((longestZeros gs).1 + (longestZeros gs).2)
  | [] => rfl
  | g :: gs => by
    simp only [longestZeros]
    split
    · simpa using eq_replicate_leadingZeros (g :: gs)
    · rw [List.take_succ_cons, Nat.add_right_comm, List.drop_succ_cons, List.cons_append,
        List.cons_append, ← eq_replicate_longestZeros gs]

/-- An address in its own form is read back. -/
theorem read_compressed (address : Ipv6) {rest : List Char} (hrest : EndsSeries rest) :
    read (compressed address.groups.toList ++ rest) = some (address, rest) := by
  have hsplit := eq_replicate_longestZeros address.groups.toList
  have height : address.groups.toList.length = 8 := address.groups.length_toList
  rw [compressed]
  rcases hzeros : longestZeros address.groups.toList with ⟨start, length⟩
  rw [hzeros] at hsplit
  dsimp only at hsplit ⊢
  by_cases hlong : length > 1
  · have hlength := congrArg List.length hsplit
    simp only [List.length_append, List.length_take, List.length_replicate, List.length_drop,
      height] at hlength
    have hbefore : (address.groups.toList.take start).length = start := by
      rw [List.length_take, height]
      omega
    have hafter : (address.groups.toList.drop (start + length)).length = 8 - (start + length) := by
      rw [List.length_drop, height]
    rw [if_pos hlong, List.append_assoc]
    refine read_of_split (readSeries_first (Or.inr ⟨_, rfl⟩) ?_) ?_ (readSeries_first hrest ?_) ?_
    · omega
    · omega
    · omega
    · rw [hbefore, hafter, show 8 - start - (8 - (start + length)) = length by omega]
      exact hsplit
  · -- one zero group alone is written like any other
    rw [if_neg hlong]
    exact read_of_full (readSeries_first hrest (by omega))

/-- The two bytes of a group make it up. -/
theorem bytes_of_group (g : UInt16) :
    (g >>> 8).toUInt8.toUInt16 <<< 8 ||| g.toUInt8.toUInt16 = g := by
  have hlt : g.toNat < 65536 := g.toNat_lt
  have hhigh : (g.toNat >>> 8 % 256) <<< 8 % 65536 = (g.toNat / 256) <<< 8 := by
    rw [Nat.shiftRight_eq_div_pow, Nat.shiftLeft_eq, Nat.shiftLeft_eq]
    omega
  have hlow : g.toNat % 256 < 2 ^ 8 := Nat.mod_lt _ (by decide)
  apply UInt16.toNat_inj.mp
  calc ((g >>> 8).toUInt8.toUInt16 <<< 8 ||| g.toUInt8.toUInt16).toNat
      = (g.toNat >>> 8 % 256) <<< 8 % 65536 ||| g.toNat % 256 := by simp
    _ = (g.toNat / 256) <<< 8 + g.toNat % 256 := by
      rw [hhigh, Nat.shiftLeft_add_eq_or_of_lt hlow]
    _ = g.toNat := by
      rw [Nat.shiftLeft_eq]
      omega

/-- The dotted address that an address carries makes up its last two groups. -/
theorem groups_of_mappedIpv4? {address : Ipv6} {inner : Ipv4}
    (h : address.mappedIpv4? = some inner) :
    address.groups.toList = [0, 0, 0, 0, 0, 0xFFFF] ++ groupsOfIpv4 inner := by
  rw [mappedIpv4?] at h
  split at h
  · next high low hgroups =>
    cases h
    rw [hgroups, groupsOfIpv4, bytes_of_group, bytes_of_group]
    rfl
  · cases h

/-- A written IPv6 address is read up to where its last group ends. -/
theorem read_chars (address : Ipv6) {rest : List Char} (hrest : EndsSeries rest) :
    read (address.chars ++ rest) = some (address, rest) := by
  rw [chars]
  rcases hmapped : address.mappedIpv4? with _ | inner
  · exact read_compressed address hrest
  · have hseries : readSeries 7 true ("ffff:".toList ++ inner.chars ++ rest) =
        ⟨0xFFFF :: groupsOfIpv4 inner, true, rest⟩ := by
      rw [readSeries_group 0xFFFF rfl (endsGroup_colon (inner.chars ++ rest)),
        readSeries_dotted inner hrest.endsGroup.stops]
    exact read_of_split (readSeries_of_endsSeries (Or.inr ⟨_, rfl⟩) true 8) (by decide) hseries
      (groups_of_mappedIpv4? hmapped)

/-- A text that starts with a dotted address is no IPv6 address. -/
theorem read_eq_none_of_ipv4_read {s rest : List Char} {address : Ipv4}
    (h : Ipv4.read s = some (address, rest)) : read s = none := by
  have hhead : readSeries 8 true s = ⟨groupsOfIpv4 address, true, rest⟩ := by
    rw [readSeries]
    simp [h]
  rw [read, hhead]
  rfl

end Ipv6

/-- A written address is read up to where it ends. -/
theorem Ip.read_chars (ip : Ip) {rest : List Char} (hrest : Ipv6.EndsSeries rest) :
    Ip.read (ip.chars ++ rest) = some (ip, rest) := by
  cases ip with
  | v4 address => rw [Ip.read, Ip.chars, Ipv4.read_chars address hrest.endsGroup.stops]
  | v6 address =>
    have hread := Ipv6.read_chars address hrest
    rw [Ip.read, Ip.chars]
    rcases hdotted : Ipv4.read (address.chars ++ rest) with _ | ⟨inner, rest'⟩
    · simp only [hread, Option.map_some]
    · -- the dotted form would have been taken, but then no IPv6 address could be read
      rw [Ipv6.read_eq_none_of_ipv4_read hdotted] at hread
      cases hread

theorem Ipv6.endsSeries_nil : EndsSeries [] := Or.inl fun _ h => by cases h

theorem Ipv6.ofChars?_chars (address : Ipv6) : ofChars? address.chars = some address := by
  have hread := read_chars address endsSeries_nil
  rw [List.append_nil] at hread
  rw [ofChars?, PartReader.whole?, hread]

/-- A written address is read back as a whole. -/
theorem Ip.ofChars?_chars (ip : Ip) : ofChars? ip.chars = some ip := by
  have hread := read_chars ip Ipv6.endsSeries_nil
  rw [List.append_nil] at hread
  rw [ofChars?, PartReader.whole?, hread]

theorem Ip.ofChars?_append_eq_none (ip : Ip) {c : Char} {rest : List Char}
    (h : Ipv6.EndsSeries (c :: rest)) : ofChars? (ip.chars ++ c :: rest) = none := by
  rw [ofChars?, PartReader.whole?, read_chars ip h]

/-! ### The characters of an address -/

/-- Whether a character may stand in a written address. -/
def isAddressChar (c : Char) : Bool := Ipv6.isHexDigit c || c = ':' || c = '.'

/-- The characters of a written address lie between the blanks and the letters behind `f`. -/
theorem range_of_isAddressChar {c : Char} (h : isAddressChar c = true) :
    '.'.toNat ≤ c.toNat ∧ c.toNat ≤ 'f'.toNat := by
  simp only [isAddressChar, Bool.or_eq_true, decide_eq_true_eq] at h
  rcases h with (h | rfl) | rfl
  · rw [Ipv6.isHexDigit, Text.hexDigit?] at h
    have hle : ∀ {a b : Char}, a ≤ b → a.toNat ≤ b.toNat := fun h => UInt32.le_iff_toNat_le.mp h
    split at h
    · next hc => exact ⟨(hle hc.1).trans' (by decide), (hle hc.2).trans (by decide)⟩
    split at h
    · next hc => exact ⟨(hle hc.1).trans' (by decide), hle hc.2⟩
    split at h
    · next hc => exact ⟨(hle hc.1).trans' (by decide), (hle hc.2).trans (by decide)⟩
    · cases h
  · decide
  · decide

theorem isBlank_of_isAddressChar {c : Char} (h : isAddressChar c = true) :
    Text.isBlank c = false := by
  obtain ⟨hlow, hhigh⟩ := range_of_isAddressChar h
  exact Text.isBlank_eq_false ⟨hlow.trans' (by decide), hhigh.trans (by decide)⟩

theorem isAddressChar_of_mem_decimal {n : Nat} {c : Char} (h : c ∈ Text.decimal n) :
    isAddressChar c = true := by
  rw [isAddressChar, Ipv6.isHexDigit_of_isDigit (Text.isDigit_of_mem_decimal h)]
  rfl

theorem Ipv4.isAddressChar_of_mem_chars {address : Ipv4} {c : Char} (h : c ∈ address.chars) :
    isAddressChar c = true := by
  simp only [chars, List.mem_append, List.mem_cons] at h
  rcases h with ((h | rfl | h) | rfl | h) | rfl | h
  all_goals first
    | exact isAddressChar_of_mem_decimal h
    | rfl

/-- Groups are written in the characters of addresses. -/
theorem Ipv6.isAddressChar_of_mem_joinGroups {gs : List UInt16} {c : Char}
    (h : c ∈ joinGroups gs) : isAddressChar c = true := by
  have hgroup : ∀ {g : UInt16}, c ∈ Text.hexadecimal g.toNat → isAddressChar c = true := by
    intro g hg
    rw [isAddressChar, isHexDigit_of_mem_hexadecimal c hg]
    rfl
  fun_induction joinGroups gs with
  | case1 => exact absurd h List.not_mem_nil
  | case2 g => exact hgroup h
  | case3 g gs _ ih =>
    simp only [List.mem_append, List.mem_cons] at h
    rcases h with h | rfl | h
    · exact hgroup h
    · rfl
    · exact ih h

/-- Groups with their zeros left out are written in the characters of addresses. -/
theorem Ipv6.isAddressChar_of_mem_compressed {gs : List UInt16} {c : Char}
    (h : c ∈ compressed gs) : isAddressChar c = true := by
  rw [compressed] at h
  dsimp only at h
  split at h
  · rcases List.mem_append.mp h with h | h
    · exact isAddressChar_of_mem_joinGroups h
    · simp only [List.mem_cons] at h
      rcases h with rfl | rfl | h
      · rfl
      · rfl
      · exact isAddressChar_of_mem_joinGroups h
  · exact isAddressChar_of_mem_joinGroups h

/-- An address is written in the characters of addresses. -/
theorem Ip.isAddressChar_of_mem_chars {ip : Ip} {c : Char} (h : c ∈ ip.chars) :
    isAddressChar c = true := by
  have hmapped : ∀ c ∈ "::ffff:".toList, isAddressChar c = true := List.all_eq_true.mp rfl
  cases ip with
  | v4 address => exact Ipv4.isAddressChar_of_mem_chars h
  | v6 address =>
    rw [Ip.chars, Ipv6.chars] at h
    split at h
    · rcases List.mem_append.mp h with h | h
      · exact hmapped c h
      · exact Ipv4.isAddressChar_of_mem_chars h
    · exact Ipv6.isAddressChar_of_mem_compressed h

theorem Ip.isWord_chars (ip : Ip) : Text.IsWord ip.chars := by
  refine ⟨fun hnil => ?_, fun c hc => isBlank_of_isAddressChar (isAddressChar_of_mem_chars hc)⟩
  have hread := ofChars?_chars ip
  rw [hnil] at hread
  cases hread

end HostDns
